import GameCatalog.Text.Blank
import Mathlib.Data.List.TakeWhile

/-!
Trimming.  What is left of a text after trimming neither begins nor ends with a blank, and only
blanks were dropped; nothing else has both properties.
-/

namespace GameCatalog.Blank

def Blanks (characters : List Char) : Prop :=
  ∀ character ∈ characters, isBlank character = true

/-- What a text is without the blanks around it. -/
structure Trims (text trimmed : List Char) : Prop where
  surrounded : ∃ leading trailing, Blanks leading ∧ Blanks trailing ∧
    text = leading ++ (trimmed ++ trailing)
  first : ∀ character ∈ trimmed.head?, isBlank character = false
  last : ∀ character ∈ trimmed.getLast?, isBlank character = false

section DropWhile

variable {text : List Char}

theorem dropWhile_of_first (first : ∀ character ∈ text.head?, isBlank character = false) :
    text.dropWhile isBlank = text := by
  cases text with
  | nil => rfl
  | cons character text =>
      exact List.dropWhile_cons_of_neg (by simp [first character rfl])

theorem first_of_dropWhile (text : List Char) :
    ∀ character ∈ (text.dropWhile isBlank).head?, isBlank character = false := by
  intro character begins
  have stopped := List.head?_dropWhile_not isBlank text
  rwa [Option.mem_def.mp begins] at stopped

theorem blanks_takeWhile (text : List Char) : Blanks (text.takeWhile isBlank) :=
  fun character membership => List.all_eq_true.mp List.all_takeWhile character membership

theorem Blanks.reverse (blank : Blanks text) : Blanks text.reverse :=
  fun character membership => blank character (List.mem_reverse.mp membership)

end DropWhile

theorem trims_trimChars (text : List Char) : Trims text (trimChars text) := by
  have cut : text.dropWhile isBlank = trimChars text ++
      ((text.dropWhile isBlank).reverse.takeWhile isBlank).reverse := by
    unfold trimChars trimEnd
    rw [← List.reverse_append, List.takeWhile_append_dropWhile, List.reverse_reverse]
  have surrounded : text = text.takeWhile isBlank ++ (trimChars text ++
      ((text.dropWhile isBlank).reverse.takeWhile isBlank).reverse) := by
    rw [← cut, List.takeWhile_append_dropWhile]
  refine ⟨⟨_, _, blanks_takeWhile text, (blanks_takeWhile _).reverse, surrounded⟩, ?_, ?_⟩
  · intro character begins
    apply first_of_dropWhile text character
    rw [cut, List.head?_append, Option.mem_def.mp begins]
    rfl
  · intro character ends
    unfold trimChars trimEnd at ends
    rw [List.getLast?_reverse] at ends
    exact first_of_dropWhile _ character ends

theorem trims_iff {text trimmed : List Char} : Trims text trimmed ↔ trimChars text = trimmed := by
  constructor
  · rintro ⟨⟨leading, trailing, blankBefore, blankAfter, rfl⟩, first, last⟩
    unfold trimChars trimEnd
    rw [List.dropWhile_append_of_pos blankBefore]
    cases trimmed with
    | nil =>
        have gone : trailing.dropWhile isBlank = [] := List.dropWhile_eq_nil_iff.mpr blankAfter
        rw [List.nil_append, gone]
        rfl
    | cons character rest =>
        have kept : (character :: rest ++ trailing).dropWhile isBlank =
            character :: rest ++ trailing :=
          List.dropWhile_cons_of_neg (by simp [first character rfl])
        have keptReverse := @dropWhile_of_first (character :: rest).reverse
          (List.head?_reverse.symm ▸ last)
        rw [kept, List.reverse_append, List.dropWhile_append_of_pos blankAfter.reverse, keptReverse,
          List.reverse_reverse]
  · rintro rfl
    exact trims_trimChars text

section Unblank

variable {leading text trailing : List Char}

theorem trimChars_surrounded (blankBefore : Blanks leading)
    (unblank : ∀ character ∈ text, isBlank character = false) (blankAfter : Blanks trailing) :
    trimChars (leading ++ (text ++ trailing)) = text :=
  trims_iff.mp ⟨⟨leading, trailing, blankBefore, blankAfter, rfl⟩,
    fun character begins => unblank character (List.mem_of_head? begins),
    fun character ends => unblank character (List.mem_of_getLast? ends)⟩

theorem trimChars_append_of_blank (blank : Blanks leading)
    (unblank : ∀ character ∈ text, isBlank character = false) :
    trimChars (leading ++ text) = text := by
  have trimmed := @trimChars_surrounded leading text [] blank unblank nofun
  rwa [List.append_nil] at trimmed

/-- Nothing is left of a text exactly if all of it is blank. -/
theorem trimChars_eq_nil_iff : trimChars text = [] ↔ Blanks text := by
  rw [← trims_iff]
  constructor
  · rintro ⟨⟨leading, trailing, blankBefore, blankAfter, rfl⟩, -, -⟩
    intro character membership
    rcases List.mem_append.mp membership with before | after
    · exact blankBefore character before
    · exact blankAfter character after
  · exact fun blank => ⟨⟨text, [], blank, nofun, by simp⟩, nofun, nofun⟩

end Unblank

end GameCatalog.Blank
