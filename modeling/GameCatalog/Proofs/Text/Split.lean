import GameCatalog.Text.Split
import Mathlib.Data.List.Basic

/-!
Cutting a text loses nothing but the separator: the pieces that were joined are found again, and
no character is in a piece that is not in the text.
-/

namespace GameCatalog.Split

variable {separator character : Char} {text before after : List Char}

theorem mem_join {between : List Char} {pieces : List (List Char)}
    (inside : character ∈ join between pieces) :
    character ∈ between ∨ ∃ piece ∈ pieces, character ∈ piece := by
  fun_induction join between pieces with
  | case1 => exact absurd inside List.not_mem_nil
  | case2 piece => exact .inr ⟨piece, List.mem_singleton_self piece, inside⟩
  | case3 piece pieces _ inductionHypothesis =>
      rcases List.mem_append.mp inside with front | later
      · rcases List.mem_append.mp front with here | separating
        · exact .inr ⟨piece, List.mem_cons_self, here⟩
        · exact .inl separating
      · rcases inductionHypothesis later with separating | ⟨other, there, inOther⟩
        · exact .inl separating
        · exact .inr ⟨other, List.mem_cons_of_mem _ there, inOther⟩

theorem afterPrefix?_eq_some_iff {beginning rest : List Char} :
    afterPrefix? beginning text = some rest ↔ text = beginning ++ rest := by
  induction beginning generalizing text with
  | nil => simp [afterPrefix?]
  | cons expected beginning inductionHypothesis =>
      cases text with
      | nil => simp [afterPrefix?]
      | cons character text =>
          by_cases same : character = expected
          · simp [afterPrefix?, same, inductionHypothesis]
          · simp [afterPrefix?, same]

theorem first?_append (absent : ∀ character ∈ before, character ≠ separator) (after : List Char) :
    first? separator (before ++ separator :: after) = some (before, after) := by
  induction before with
  | nil => simp [first?]
  | cons character before inductionHypothesis =>
      rw [List.forall_mem_cons] at absent
      simp [first?, absent.1, inductionHypothesis absent.2]

theorem on_of_absent (absent : ∀ character ∈ before, character ≠ separator) :
    on separator before = [before] := by
  induction before with
  | nil => rfl
  | cons character before inductionHypothesis =>
      rw [List.forall_mem_cons] at absent
      simp [on, absent.1, inductionHypothesis absent.2]

theorem on_append (absent : ∀ character ∈ before, character ≠ separator) (after : List Char) :
    on separator (before ++ separator :: after) = before :: on separator after := by
  induction before with
  | nil => simp [on]
  | cons character before inductionHypothesis =>
      rw [List.forall_mem_cons] at absent
      simp [on, absent.1, inductionHypothesis absent.2]

theorem on_join {piece : List Char} {pieces : List (List Char)}
    (whole : ∀ part ∈ piece :: pieces, ∀ character ∈ part, character ≠ separator)
    (blank : separator ≠ ' ') :
    on separator (join [separator, ' '] (piece :: pieces)) = piece :: pieces.map (' ' :: ·) := by
  induction pieces generalizing piece with
  | nil => exact on_of_absent (whole piece List.mem_cons_self)
  | cons next pieces inductionHypothesis =>
      obtain ⟨wholePiece, wholeRest⟩ := List.forall_mem_cons.mp whole
      have joined : join [separator, ' '] (piece :: next :: pieces) =
          piece ++ separator :: ' ' :: join [separator, ' '] (next :: pieces) := by
        simp [join]
      have cut : on separator (' ' :: join [separator, ' '] (next :: pieces)) =
          (' ' :: next) :: pieces.map (' ' :: ·) := by
        simp [on, blank.symm, inductionHypothesis wholeRest]
      rw [joined, on_append wholePiece, cut]
      rfl

end GameCatalog.Split
