import GameCatalog.Proofs.Web.Serving

/-!
The identifiers that a path spells.  The guard of an endpoint and its handler read them from
the same pieces of the path.
-/

namespace GameCatalog

/-- The encoded piece of a path spells an identifier. -/
def Spells {entity : Entity} (piece : List Char) (id : Id entity) : Prop :=
  (Route.decodeParameter? piece).bind Id.ofText? = some id

instance {entity : Entity} (piece : List Char) (id : Id entity) : Decidable (Spells piece id) :=
  inferInstanceAs (Decidable (_ = _))

variable {entity : Entity} {name : String} {id : Id entity}

theorem Parameters.lookup_of_identifier {parameters : Parameters}
    (named : parameters.identifier name = .ok id) :
    ∃ texts text, parameters = some texts ∧ texts.lookup name = some text ∧
      Id.ofText? text = some id := by
  unfold Parameters.identifier at named
  split at named
  · rename_i found
    obtain ⟨text, looked, spelled⟩ := Option.bind_eq_some_iff.mp found
    obtain ⟨texts, given, looked⟩ := Option.bind_eq_some_iff.mp looked
    cases named
    exact ⟨texts, text, given, looked, spelled⟩
  · contradiction

theorem Route.lookup_of_decodeParameters? {encoded : List (String × List Char)}
    {texts : List (String × String)} {text : String}
    (decoded : decodeParameters? encoded = some texts) (found : texts.lookup name = some text) :
    ∃ piece, encoded.lookup name = some piece ∧ decodeParameter? piece = some text := by
  induction encoded generalizing texts with
  | nil =>
      simp only [decodeParameters?, List.mapM_nil, Option.pure_def, Option.some.injEq] at decoded
      simp [← decoded] at found
  | cons parameter rest inductionHypothesis =>
      obtain ⟨first, piece⟩ := parameter
      simp only [decodeParameters?, List.mapM_cons, Option.pure_def, Option.bind_eq_bind,
        Option.bind_eq_some_iff, Option.map_eq_some_iff, Option.some.injEq] at decoded
      obtain ⟨_, ⟨firstText, spelled, rfl⟩, laterTexts, later, rfl⟩ := decoded
      by_cases same : name = first
      · subst same
        simp only [List.lookup_cons_self, Option.some.injEq] at found
        exact ⟨piece, List.lookup_cons_self, found ▸ spelled⟩
      · have different : (name == first) = false := by simpa using same
        simp only [List.lookup_cons, different] at found ⊢
        exact inductionHypothesis later found

/-- An identifier that a handler sees is spelled by the path. -/
theorem spells_of_identifier {encoded : List (String × List Char)}
    (named : Parameters.identifier (Route.decodeParameters? encoded) name = .ok id) :
    ∃ piece, encoded.lookup name = some piece ∧ Spells piece id := by
  obtain ⟨texts, text, decoded, found, spelled⟩ := Parameters.lookup_of_identifier named
  obtain ⟨piece, taken, written⟩ := Route.lookup_of_decodeParameters? decoded found
  exact ⟨piece, taken, by rw [Spells, written]; exact spelled⟩

theorem Gateway.identifier_of_pathId {gateway : Gateway} {visit : Visit}
    (named : Access.pathId entity (gateway.credentials visit) name = .ok id) :
    visit.parameters.identifier name = .ok id := by
  unfold Access.pathId at named
  split at named
  · contradiction
  · rename_i text looked
    cases given : visit.parameters with
    | none => simp [Gateway.credentials, given] at looked
    | some texts =>
        simp only [Gateway.credentials, given, Option.getD_some] at looked
        unfold Parameters.identifier
        split at named
        · rename_i spelled
          cases named
          simp [looked, spelled]
        · contradiction

end GameCatalog
