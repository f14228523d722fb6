import GameCatalog.Proofs.Access.Decision

/-!
Admission, and what comes after it.  A scheme that reads an identifier from the path first looks
at who asks, and only then looks for the parameter.  As long as nothing fails to be looked up, it
comes to a decision unless the parameter is missing.
-/

namespace GameCatalog

def Scheme.parameter? : Scheme → Option (Entity × String)
  | .gameOwner | .gameMaintainer | .launcherGame | .gameInfo | .gameFiles =>
      some (.game, "gameID")
  | .editionManager | .launcherEdition => some (.edition, "editionID")
  | .launcherFile => some (.gameFile, "gameFileID")
  | .member | .admin | .launcher => none

namespace Access

variable {repository : Repository} {credentials : Credentials} {now : Instant}

def Bears (document : Document) (authorization : Option String) (now : Instant)
    (edition : Edition) : Prop :=
  ∃ header token access, authorization = some header ∧
    Split.afterPrefix? bearer header.toList = some token ∧
    AccessToken.isValid (String.ofList token) = true ∧
    document.findLauncherSession (String.ofList token) = some access ∧
    access.session.isExpiredAt now = false ∧ access.edition = edition

/-- The credentials are those that a scheme asks for before it reads the path. -/
def Admitted (scheme : Scheme) (document : Document) (credentials : Credentials)
    (now : Instant) : Prop :=
  match scheme with
  | .gameOwner | .gameMaintainer | .editionManager | .member | .admin =>
      ∃ user, LoggedIn credentials.session now user
  | .launcher | .launcherEdition | .launcherGame | .launcherFile =>
      ∃ edition, Bears document credentials.authorization now edition
  | .gameInfo | .gameFiles => True

def Settled {Value : Type} (decision : Decision Value) : Prop :=
  ∀ error, decision ≠ .error (.failed error)

namespace Settled

theorem pure {Value : Type} (value : Value) : Settled (Pure.pure value : Decision Value) :=
  fun _ failed => nomatch failed

theorem deny {Value : Type} (denial : Denial) : Settled (Access.deny denial : Decision Value) :=
  fun _ failed => nomatch failed

theorem bind {Value Next : Type} {decision : Decision Value} {next : Value → Decision Next}
    (first : Settled decision) (second : ∀ value, Settled (next value)) :
    Settled (decision >>= next) := by
  cases decision with
  | ok value => exact second value
  | error stop =>
      intro error failed
      cases failed
      exact first error rfl

theorem map {Value Next : Type} {decision : Decision Value} (function : Value → Next)
    (settled : Settled decision) : Settled (decision.map function) := by
  cases decision with
  | ok value => exact .pure (function value)
  | error stop =>
      intro error failed
      cases failed
      exact settled error rfl

theorem lookUp {Value : Type} {answer : Except StoreError Value} {value : Value}
    (answered : answer = .ok value) : Settled (Access.lookUp answer) := by
  rw [answered]
  exact .pure value

end Settled

/-- A decision that needs an identifier from the path, once those who ask are admitted. -/
structure Needs (entity : Entity) (name : String) (admitted : Prop) (credentials : Credentials)
    (decision : Decision Grant) : Prop where
  failed_iff : ∀ error, decision = .error (.failed error) ↔
    error = .missingParameter name ∧ admitted ∧ credentials.parameters.lookup name = none
  malformed : admitted → ∀ text, credentials.parameters.lookup name = some text →
    (Id.ofText? text : Option (Id entity)) = none →
      decision = deny (.invalidRequest ("invalid " ++ name))

theorem needs_of_stages {First : Type} {first : Decision First} {entity : Entity} {name : String}
    {rest : First → Id entity → Decision Grant} {admitted : Prop} (settled : Settled first)
    (passes : admitted ↔ ∃ who, first = .ok who)
    (settledRest : ∀ who id, Settled (rest who id)) :
    Needs entity name admitted credentials
      (first >>= fun who => pathId entity credentials name >>= rest who) := by
  constructor
  · intro error
    cases first with
    | error stop =>
        have refused : ¬admitted := fun admission => by simpa using passes.mp admission
        simp only [refused, false_and, and_false, iff_false]
        intro failed
        cases failed
        exact settled error rfl
    | ok who =>
        have admission : admitted := passes.mpr ⟨who, rfl⟩
        have unfolded : (Except.ok who >>= fun who => pathId entity credentials name >>= rest who) =
            pathId entity credentials name >>= rest who := rfl
        rw [unfolded]
        unfold pathId
        cases found : credentials.parameters.lookup name with
        | none => simp [admission, bind, Except.bind, eq_comm]
        | some text =>
            cases spelled : (Id.ofText? text : Option (Id entity)) with
            | none => simp [spelled, bind, Except.bind, deny]
            | some id => simpa [spelled, bind, Except.bind] using settledRest who id error
  · intro admission text found misspelled
    obtain ⟨who, passed⟩ := passes.mp admission
    rw [passed]
    simp [pathId, found, misspelled, bind, Except.bind, deny]

/-- A decision that begins with the path admits everyone to it. -/
theorem needs_of_path {entity : Entity} {name : String} {rest : Id entity → Decision Grant}
    (settledRest : ∀ id, Settled (rest id)) :
    Needs entity name True credentials (pathId entity credentials name >>= rest) := by
  have nobodyAsked : True ↔ ∃ who, (pure () : Decision Unit) = .ok who := by
    simp [pure, Except.pure]
  exact needs_of_stages (.pure ()) nobodyAsked fun _ => settledRest

theorem settled_requireMember : Settled (requireMember credentials now) := by
  unfold requireMember
  split
  · exact .pure _
  · exact .deny _

section Works

variable (works : ∀ operation, repository.faults operation = none)
include works

theorem answer_of_works {Value : Type} (operation : Operation) (question : Document → Value) :
    repository.answer operation question = .ok (question repository.document) := by
  unfold Repository.answer
  rw [works]

theorem getGame_of_works (id : GameId) :
    repository.getGame id = .ok (repository.document.games.get? id) :=
  answer_of_works works .getGame _

theorem hasFile_of_works (file : GameFileId) (ids : List GameId) :
    ∃ found, hasFile repository file ids = .ok found := by
  induction ids with
  | nil => exact ⟨false, rfl⟩
  | cons id ids inductionHypothesis =>
      simp only [hasFile, getGame_of_works works, bind, Except.bind]
      cases repository.document.games.get? id with
      | none => exact inductionHypothesis
      | some game =>
          dsimp only
          split
          · exact ⟨_, rfl⟩
          · exact inductionHypothesis

/-- A launcher is let in exactly by the token of a session that is not over. -/
theorem launcher_eq_ok_iff {edition : Edition} :
    launcher repository credentials now = .ok edition ↔
      Bears repository.document credentials.authorization now edition := by
  have answered (token : String) : repository.findLauncherSession token =
      .ok (repository.document.findLauncherSession token) :=
    answer_of_works works .findLauncherSession _
  unfold launcher Bears
  cases shown : credentials.authorization with
  | none => simp [deny]
  | some header =>
      cases cut : Split.afterPrefix? bearer header.toList with
      | none => simp [cut, deny]
      | some token =>
          cases valid : AccessToken.isValid (String.ofList token) with
          | false => simp [cut, valid, deny]
          | true =>
              cases found : repository.document.findLauncherSession (String.ofList token) with
              | none => simp [cut, valid, found, answered, Repository.validateSession, deny]
              | some access =>
                  cases expired : access.session.isExpiredAt now <;>
                    simp [cut, valid, found, answered, expired, Repository.validateSession, deny]

theorem settled_launcher : Settled (launcher repository credentials now) := by
  have answered (token : String) : repository.findLauncherSession token =
      .ok (repository.document.findLauncherSession token) :=
    answer_of_works works .findLauncherSession _
  unfold launcher
  split
  · exact .deny _
  split
  · exact .deny _
  dsimp only
  split
  · exact .deny _
  unfold Repository.validateSession
  rw [answered]
  rcases repository.document.findLauncherSession _ with _ | access
  · exact .deny _
  · dsimp only
    cases access.session.isExpiredAt now
    · exact .pure _
    · exact .deny _

theorem settled_lookUp {Value : Type} (operation : Operation) (question : Document → Value) :
    Settled (lookUp (repository.answer operation question)) :=
  .lookUp (answer_of_works works operation question)

theorem needs_gameRole (allows : GameRole → Bool) (reason : String) :
    Needs .game "gameID" (∃ user, LoggedIn credentials.session now user) credentials
      (gameRole allows reason repository credentials now) := by
  apply needs_of_stages settled_requireMember
  · simp only [requireMember_eq_ok_iff]
  · intro user game
    refine .bind (settled_lookUp works .isAdmin _) fun isAdmin => ?_
    split
    · exact .pure _
    · refine .bind (settled_lookUp works .gameRole _) fun role => ?_
      cases role with
      | none => exact .deny _
      | some role =>
          dsimp only
          split
          · exact .pure _
          · exact .deny _

theorem needs_editionManager :
    Needs .edition "editionID" (∃ user, LoggedIn credentials.session now user) credentials
      (editionManager repository credentials now) := by
  apply needs_of_stages settled_requireMember
  · simp only [requireMember_eq_ok_iff]
  · intro user edition
    refine .bind (settled_lookUp works .editionAccess _) fun allowed => ?_
    split
    · exact .pure _
    · exact .deny _

theorem needs_of_launcher {entity : Entity} {name : String}
    {rest : Edition → Id entity → Decision Grant}
    (settledRest : ∀ edition id, Settled (rest edition id)) :
    Needs entity name (∃ edition, Bears repository.document credentials.authorization now edition)
      credentials (launcher repository credentials now >>= fun edition =>
        pathId entity credentials name >>= rest edition) := by
  apply needs_of_stages (settled_launcher works)
  · simp only [launcher_eq_ok_iff works]
  · exact settledRest

theorem needs_launcherFile :
    Needs .gameFile "gameFileID"
      (∃ edition, Bears repository.document credentials.authorization now edition) credentials
      (launcherFile repository credentials now) := by
  apply needs_of_launcher works
  intro edition file
  obtain ⟨found, searched⟩ := hasFile_of_works works file edition.gameIds
  refine .bind (.lookUp searched) fun found => ?_
  split
  · exact .pure _
  · exact .deny _

theorem needs_visibility :
    Needs .game "gameID" True credentials (visibility repository credentials now) := by
  unfold visibility
  apply needs_of_path
  intro id
  refine .bind (settled_lookUp works .getGame _) fun game => ?_
  cases game with
  | none => exact .deny _
  | some game =>
      dsimp only
      split
      · exact .pure _
      · split
        · exact .pure _
        · exact .deny _

/-- A scheme that reads a parameter needs it once it admitted those who ask. -/
theorem needs_decide {scheme : Scheme} {entity : Entity} {name : String}
    (read : scheme.parameter? = some (entity, name)) :
    Needs entity name (Admitted scheme repository.document credentials now) credentials
      (decide scheme repository credentials now) := by
  cases scheme with
  | member | admin | launcher => simp [Scheme.parameter?] at read
  | gameOwner | gameMaintainer =>
      cases read
      exact needs_gameRole works _ _
  | editionManager =>
      cases read
      exact needs_editionManager works
  | launcherEdition =>
      cases read
      apply needs_of_launcher works
      intro edition wanted
      split
      · exact .pure _
      · exact .deny _
  | launcherGame =>
      cases read
      apply needs_of_launcher works
      intro edition game
      split
      · exact .pure _
      · exact .deny _
  | launcherFile =>
      cases read
      exact needs_launcherFile works
  | gameInfo | gameFiles =>
      cases read
      exact needs_visibility works

theorem settled_decide {scheme : Scheme} (unread : scheme.parameter? = none) :
    Settled (decide scheme repository credentials now) := by
  cases scheme with
  | member => exact .map _ settled_requireMember
  | admin =>
      refine .bind settled_requireMember fun user => ?_
      refine .bind (settled_lookUp works .isAdmin _) fun isAdmin => ?_
      split
      · exact .pure _
      · exact .deny _
  | launcher => exact .map _ (settled_launcher works)
  | _ => contradiction

end Works

theorem check_error_iff {scheme : Scheme} {error : CheckError} :
    check scheme repository credentials now = .error error ↔
      decide scheme repository credentials now = .error (.failed error) := by
  unfold check
  split <;> simp_all

theorem check_denied_iff {scheme : Scheme} {denial : Denial} :
    check scheme repository credentials now = .ok (.denied denial) ↔
      decide scheme repository credentials now = deny denial := by
  unfold check deny
  split <;> simp_all

end Access

end GameCatalog
