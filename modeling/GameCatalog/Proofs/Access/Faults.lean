import GameCatalog.Proofs.Access.Decision

/-!
Decisions about access while operations of the repository fail.  A decision consults some
operations, one after another; as long as none of them fails it is the decision that is made when
nothing fails at all, and the first one that fails is reported as a failed lookup.  So a failure
is never taken for an answer, neither for one that lets somebody in nor for one that turns
somebody away.
-/

namespace GameCatalog

def Faults.first? (faults : Faults) (operations : List Operation) :
    Option (Operation × StoreError) :=
  operations.findSome? fun operation => (faults operation).map (Prod.mk operation)

namespace Access

def report : Operation × StoreError → CheckError
  | (.findLauncherSession, error) => .lookup (LauncherError.ofStore error).message
  | (_, error) => .lookup error.message

/-- While it is made, the decision consults the operations, of which none may fail. -/
def Consults {Value : Type} (decision : Faults → Decision Value) (operations : List Operation) :
    Prop :=
  ∀ faults, decision faults =
    match faults.first? operations with
    | none => decision Faults.none
    | some failure => .error (.failed (report failure))

/-- The first failure of what the decision consults, and nothing else, keeps it from being made. -/
def FailsClosed {Value : Type} (decision : Faults → Decision Value) : Prop :=
  ∃ operations, Consults decision operations

section Consults

variable {Value Next : Type}

theorem FailsClosed.const (decision : Decision Value) : FailsClosed fun _ => decision :=
  ⟨[], fun _ => rfl⟩

theorem consults_lookUp {operation : Operation} (direct : operation ≠ .findLauncherSession)
    (document : Document) (question : Document → Value) :
    Consults (fun faults => lookUp (Repository.answer ⟨document, faults⟩ operation question))
      [operation] := by
  intro faults
  cases failing : faults operation with
  | none => simp [Faults.first?, Repository.answer, failing, Faults.none, lookUp]
  | some error =>
      have reported : report (operation, error) = .lookup error.message := by
        cases operation <;> first | rfl | contradiction
      simp [Faults.first?, Repository.answer, failing, lookUp, reported]

theorem FailsClosed.lookUp {operation : Operation} (direct : operation ≠ .findLauncherSession)
    (document : Document) (question : Document → Value) :
    FailsClosed fun faults =>
      Access.lookUp (Repository.answer ⟨document, faults⟩ operation question) :=
  ⟨_, consults_lookUp direct document question⟩

theorem FailsClosed.bind {decision : Faults → Decision Value}
    {next : Value → Faults → Decision Next} (first : FailsClosed decision)
    (rest : ∀ value, FailsClosed (next value)) :
    FailsClosed fun faults => decision faults >>= fun value => next value faults := by
  obtain ⟨operations, consults⟩ := first
  cases undisturbed : decision Faults.none with
  | error stop =>
      refine ⟨operations, fun faults => ?_⟩
      dsimp only
      rw [consults faults, undisturbed]
      cases faults.first? operations <;> rfl
  | ok value =>
      obtain ⟨later, consultsLater⟩ := rest value
      refine ⟨operations ++ later, fun faults => ?_⟩
      have split : faults.first? (operations ++ later) =
          (faults.first? operations).or (faults.first? later) := List.findSome?_append
      dsimp only
      rw [consults faults, undisturbed, split]
      cases faults.first? operations with
      | some failure => rfl
      | none => exact consultsLater faults

theorem FailsClosed.map {decision : Faults → Decision Value} (function : Value → Next)
    (closed : FailsClosed decision) : FailsClosed fun faults => (decision faults).map function := by
  obtain ⟨operations, consults⟩ := closed
  refine ⟨operations, fun faults => ?_⟩
  dsimp only
  rw [consults faults]
  cases faults.first? operations <;> rfl

end Consults

theorem lookUp_bind {Value Next : Type} (answer : Except StoreError Value)
    (next : Value → Except StoreError Next) :
    lookUp (answer >>= next) = lookUp answer >>= fun value => lookUp (next value) := by
  cases answer <;> rfl

section Schemes

variable (document : Document) (credentials : Credentials) (now : Instant)

theorem failsClosed_validateSession (token : String) :
    FailsClosed fun faults =>
      match Repository.validateSession ⟨document, faults⟩ token now with
      | .ok access => .ok access.edition
      | .error .invalidToken => deny (.unauthenticated "invalid access token")
      | .error .expired => deny (.unauthenticated "expired access token")
      | .error error => .error (.failed (.lookup error.message)) := by
  refine ⟨[.findLauncherSession], fun faults => ?_⟩
  simp only [Repository.validateSession, Repository.findLauncherSession, Repository.answer]
  cases failing : faults .findLauncherSession with
  | none => simp [Faults.first?, failing, Faults.none]
  | some error => cases error <;> simp [Faults.first?, failing, LauncherError.ofStore, report]

theorem failsClosed_launcher :
    FailsClosed fun faults => launcher ⟨document, faults⟩ credentials now := by
  unfold launcher
  cases credentials.authorization with
  | none => exact .const _
  | some header =>
      dsimp only
      cases Split.afterPrefix? bearer header.toList with
      | none => exact .const _
      | some characters =>
          dsimp only
          cases AccessToken.isValid (String.ofList characters) with
          | false => exact .const _
          | true => exact failsClosed_validateSession document now _

theorem failsClosed_hasFile (file : GameFileId) (ids : List GameId) :
    FailsClosed fun faults => lookUp (hasFile ⟨document, faults⟩ file ids) := by
  induction ids with
  | nil => exact .const _
  | cons id ids inductionHypothesis =>
      simp only [hasFile, lookUp_bind]
      refine .bind (.lookUp (by decide) document _) fun game => ?_
      cases game with
      | none => exact inductionHypothesis
      | some game =>
          dsimp only
          cases game.files.any (·.id = file) with
          | false => exact inductionHypothesis
          | true => exact .const _

theorem failsClosed_gameRole (allows : GameRole → Bool) (reason : String) :
    FailsClosed fun faults =>
      gameRole allows reason ⟨document, faults⟩ credentials now := by
  unfold gameRole
  refine .bind (.const _) fun user => .bind (.const _) fun game => ?_
  refine .bind (.lookUp (by decide) document _) fun isAdmin => ?_
  cases isAdmin with
  | true => exact .const _
  | false => exact .bind (.lookUp (by decide) document _) fun role => .const _

theorem failsClosed_visibility :
    FailsClosed fun faults => visibility ⟨document, faults⟩ credentials now := by
  unfold visibility
  refine .bind (.const _) fun id => ?_
  exact .bind (.lookUp (by decide) document _) fun game => .const _

theorem failsClosed_decide (scheme : Scheme) :
    FailsClosed fun faults => decide scheme ⟨document, faults⟩ credentials now := by
  have launches := failsClosed_launcher document credentials now
  cases scheme with
  | member => exact .const _
  | admin =>
      refine .bind (.const _) fun user => ?_
      exact .bind (.lookUp (by decide) document _) fun isAdmin => .const _
  | gameOwner | gameMaintainer => exact failsClosed_gameRole document credentials now _ _
  | editionManager =>
      refine .bind (.const _) fun user => .bind (.const _) fun edition => ?_
      exact .bind (.lookUp (by decide) document _) fun allowed => .const _
  | launcher => exact .map _ launches
  | launcherEdition | launcherGame =>
      exact .bind launches fun edition => .bind (.const _) fun id => .const _
  | launcherFile =>
      refine .bind launches fun edition => .bind (.const _) fun file => ?_
      exact .bind (failsClosed_hasFile document file edition.gameIds) fun found => .const _
  | gameInfo | gameFiles => exact failsClosed_visibility document credentials now

end Schemes

/--
A check of access fails closed, whichever operations of the repository fail and however they do.
It ends as if nothing failed, or it is a failed lookup.  What is more, it consults some operations,
it ends as if nothing failed as long as none of these fails, and otherwise the first of them that
fails is what it reports.
-/
theorem check_failsClosed (scheme : Scheme) (document : Document) (credentials : Credentials)
    (now : Instant) :
    let checked := fun faults => check scheme ⟨document, faults⟩ credentials now
    (∀ faults, checked faults = checked Faults.none ∨
      ∃ reason, checked faults = .error (.lookup reason)) ∧
    ∃ consulted : List Operation, ∀ faults, checked faults =
      match faults.first? consulted with
      | none => checked Faults.none
      | some failure => .error (report failure) := by
  intro checked
  obtain ⟨consulted, consults⟩ := failsClosed_decide document credentials now scheme
  have reported : ∀ faults, checked faults =
      match faults.first? consulted with
      | none => checked Faults.none
      | some failure => .error (report failure) := by
    intro faults
    have decided := consults faults
    dsimp only at decided
    simp only [checked, check]
    rw [decided]
    cases faults.first? consulted <;> rfl
  refine ⟨fun faults => ?_, consulted, reported⟩
  rw [reported faults]
  cases faults.first? consulted with
  | none => exact .inl rfl
  | some failure =>
      obtain ⟨operation, error⟩ := failure
      cases operation <;> exact .inr ⟨_, rfl⟩

end Access

end GameCatalog
