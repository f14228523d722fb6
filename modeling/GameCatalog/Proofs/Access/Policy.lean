import GameCatalog.Proofs.Access.Admission

/-!
Policies in stages.  Those who ask are turned away, or they are known as someone; then the path
has to name what the scheme reads from it; and only then it counts what they are entitled to.
`Ruling` says how a request ends under such a policy, and a check that does what each stage says
ends exactly so.
-/

namespace GameCatalog

def Scheme.refusal : Scheme → String
  | .admin => "you are not admin"
  | .gameOwner => "you are not owner of this game"
  | .gameMaintainer => "you are not maintainer of this game"
  | .editionManager => "you have no access to this edition"
  | .launcherEdition => "invalid edition id"
  | .launcherGame => "game is not in this edition"
  | .launcherFile => "game file is not in this edition"
  | .member | .launcher | .gameInfo | .gameFiles => ""

namespace Access

def Names {entity : Entity} (parameters : List (String × String)) (name : String)
    (id : Id entity) : Prop :=
  ∃ text, parameters.lookup name = some text ∧ Id.ofText? text = some id

def Named (parameters : List (String × String)) (scheme : Scheme) : Prop :=
  ∀ entity name, scheme.parameter? = some (entity, name) →
    ∃ id : Id entity, Names parameters name id

inductive Unnamed (parameters : List (String × String)) (scheme : Scheme) :
    Except CheckError Verdict → Prop where
  | absent {entity : Entity} {name : String} (read : scheme.parameter? = some (entity, name))
      (absent : parameters.lookup name = none) :
      Unnamed parameters scheme (.error (.missingParameter name))
  | misspelled {entity : Entity} {name text : String}
      (read : scheme.parameter? = some (entity, name))
      (found : parameters.lookup name = some text)
      (misspelled : (Id.ofText? text : Option (Id entity)) = none) :
      Unnamed parameters scheme (.ok (.denied (.invalidRequest ("invalid " ++ name))))

/-- How a request ends under a policy in stages, of which an earlier one goes before a later one. -/
inductive Ruling {Subject : Type} (turnedAway : Denial → Prop) (known entitled : Subject → Prop)
    (grant : Subject → Grant) (parameters : List (String × String)) (scheme : Scheme) :
    Except CheckError Verdict → Prop where
  | turnedAway {denial : Denial} (turned : turnedAway denial) :
      Ruling turnedAway known entitled grant parameters scheme (.ok (.denied denial))
  | unnamed {subject : Subject} {outcome : Except CheckError Verdict} (asks : known subject)
      (unnamed : Unnamed parameters scheme outcome) :
      Ruling turnedAway known entitled grant parameters scheme outcome
  | granted {subject : Subject} (asks : known subject) (named : Named parameters scheme)
      (may : entitled subject) :
      Ruling turnedAway known entitled grant parameters scheme (.ok (.granted (grant subject)))
  | refused {subject : Subject} (asks : known subject) (named : Named parameters scheme)
      (mayNot : ¬entitled subject) :
      Ruling turnedAway known entitled grant parameters scheme
        (.ok (.denied (.forbidden scheme.refusal)))

/-- A check that does what each stage of a policy says. -/
structure Staged {Subject : Type} (checked : Except CheckError Verdict)
    (turnedAway : Denial → Prop) (known entitled : Subject → Prop) (grant : Subject → Grant)
    (parameters : List (String × String)) (scheme : Scheme) : Prop where
  stands : (∃ denial, turnedAway denial) ∨ ∃ subject, known subject
  turnedAway : ∀ denial, turnedAway denial → checked = .ok (.denied denial)
  unnamed : ∀ subject outcome, known subject → Unnamed parameters scheme outcome →
    checked = outcome
  granted : ∀ subject, known subject → Named parameters scheme → entitled subject →
    checked = .ok (.granted (grant subject))
  refused : ∀ subject, known subject → Named parameters scheme → ¬entitled subject →
    checked = .ok (.denied (.forbidden scheme.refusal))

theorem named_or_unnamed (parameters : List (String × String)) (scheme : Scheme) :
    Named parameters scheme ∨ ∃ outcome, Unnamed parameters scheme outcome := by
  cases read : scheme.parameter? with
  | none =>
      refine .inl fun entity name reads => ?_
      rw [read] at reads
      contradiction
  | some parameter =>
      obtain ⟨entity, name⟩ := parameter
      cases found : parameters.lookup name with
      | none => exact .inr ⟨_, .absent read found⟩
      | some text =>
          cases spelled : (Id.ofText? text : Option (Id entity)) with
          | none => exact .inr ⟨_, .misspelled read found spelled⟩
          | some id =>
              refine .inl fun other otherName reads => ?_
              rw [read] at reads
              cases reads
              exact ⟨id, text, found, spelled⟩

section Stages

variable {Subject : Type} {checked outcome : Except CheckError Verdict}
  {turnedAway : Denial → Prop} {known entitled : Subject → Prop} {grant : Subject → Grant}
  {parameters : List (String × String)} {scheme : Scheme}

theorem Staged.exists_ruling
    (staged : Staged checked turnedAway known entitled grant parameters scheme) :
    ∃ outcome, Ruling turnedAway known entitled grant parameters scheme outcome := by
  rcases staged.stands with ⟨denial, turned⟩ | ⟨subject, asks⟩
  · exact ⟨_, .turnedAway turned⟩
  rcases named_or_unnamed parameters scheme with named | ⟨outcome, unnamed⟩
  · by_cases may : entitled subject
    · exact ⟨_, .granted asks named may⟩
    · exact ⟨_, .refused asks named may⟩
  · exact ⟨outcome, .unnamed asks unnamed⟩

theorem Staged.eq_of_ruling
    (staged : Staged checked turnedAway known entitled grant parameters scheme)
    (ruling : Ruling turnedAway known entitled grant parameters scheme outcome) :
    checked = outcome := by
  cases ruling with
  | turnedAway turned => exact staged.turnedAway _ turned
  | unnamed asks unnamed => exact staged.unnamed _ _ asks unnamed
  | granted asks named may => exact staged.granted _ asks named may
  | refused asks named mayNot => exact staged.refused _ asks named mayNot

/-- A staged check ends as its policy rules, and in no other way. -/
theorem Staged.eq_iff_ruling
    (staged : Staged checked turnedAway known entitled grant parameters scheme) :
    checked = outcome ↔ Ruling turnedAway known entitled grant parameters scheme outcome := by
  constructor
  · rintro rfl
    obtain ⟨outcome, ruling⟩ := staged.exists_ruling
    rw [staged.eq_of_ruling ruling]
    exact ruling
  · exact staged.eq_of_ruling

theorem Ruling.known_of_granted {given : Grant}
    (ruling : Ruling turnedAway known entitled grant parameters scheme (.ok (.granted given))) :
    ∃ subject, given = grant subject ∧ known subject := by
  cases ruling with
  | unnamed asks unnamed => cases unnamed
  | granted asks named may => exact ⟨_, rfl, asks⟩

end Stages

variable {repository : Repository} {credentials : Credentials} {now : Instant} {scheme : Scheme}

theorem pathId_of_names {entity : Entity} {name : String} {id : Id entity}
    (names : Names credentials.parameters name id) :
    pathId entity credentials name = .ok id := by
  obtain ⟨text, found, spelled⟩ := names
  unfold pathId
  simp only [found, spelled]

theorem names_unique {entity : Entity} {parameters : List (String × String)} {name : String}
    {first second : Id entity} (firstNamed : Names parameters name first)
    (secondNamed : Names parameters name second) : first = second := by
  obtain ⟨text, found, spelled⟩ := firstNamed
  obtain ⟨other, otherFound, otherSpelled⟩ := secondNamed
  rw [found] at otherFound
  cases otherFound
  exact Option.some.inj (spelled.symm.trans otherSpelled)

theorem decides_of_ite {may allowed : Prop} [Decidable allowed] {decision : Decision Grant}
    {grant : Grant} {denial : Denial} (same : may ↔ allowed)
    (decided : decision = if allowed then .ok grant else deny denial) :
    (may → decision = .ok grant) ∧ (¬may → decision = deny denial) := by
  constructor
  · intro has
    rw [decided, if_pos (same.mp has)]
  · intro hasNot
    rw [decided, if_neg fun has => hasNot (same.mpr has)]

theorem exists_names_iff {entity : Entity} {parameters : List (String × String)} {name : String}
    {id : Id entity} (named : Names parameters name id) {holds : Id entity → Prop} :
    (∃ id, Names parameters name id ∧ holds id) ↔ holds id := by
  constructor
  · rintro ⟨other, otherNamed, held⟩
    rwa [names_unique named otherNamed]
  · exact fun held => ⟨id, named, held⟩

/-- Whoever is admitted without naming what the scheme reads is told so. -/
theorem check_of_unnamed (works : ∀ operation, repository.faults operation = none)
    (admitted : Admitted scheme repository.document credentials now)
    {outcome : Except CheckError Verdict}
    (unnamed : Unnamed credentials.parameters scheme outcome) :
    check scheme repository credentials now = outcome := by
  cases unnamed with
  | absent read absent =>
      have needs := @needs_decide _ credentials now works _ _ _ read
      exact check_error_iff.mpr ((needs.failed_iff _).mpr ⟨rfl, admitted, absent⟩)
  | misspelled read found misspelled =>
      have needs := @needs_decide _ credentials now works _ _ _ read
      exact check_denied_iff.mpr (needs.malformed admitted _ found misspelled)

end Access

end GameCatalog
