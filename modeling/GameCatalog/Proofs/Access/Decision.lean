import GameCatalog.Access.Check

/-!
What a granted decision says about the request.  A grant to a member rests on an identity
that is not over at the instant of the decision, and on what the repository holds about the
user of that identity.
-/

namespace GameCatalog.Access

variable {repository : Repository} {credentials : Credentials} {now : Instant} {grant : Grant}

/-- The session holds an identity that is not over, and its user. -/
def LoggedIn (session : Option ClientSession) (now : Instant) (user : User) : Prop :=
  ∃ client identity, session = some client ∧ client.identity = some identity ∧
    identity.isExpiredAt now = false ∧ client.user = some user

theorem member_eq_ok_iff {session : Option ClientSession} {user : User} :
    member session now = .ok user ↔ LoggedIn session now user := by
  unfold member LoggedIn
  cases session with
  | none => simp [Authentication.ofSession]
  | some client =>
      cases carried : client.identity with
      | none => simp [Authentication.ofSession, carried]
      | some identity =>
          cases expired : identity.isExpiredAt now with
          | true => simp [Authentication.ofSession, carried, expired]
          | false =>
              cases named : client.user with
              | none => simp [Authentication.ofSession, carried, expired, named]
              | some other => simp [Authentication.ofSession, carried, expired, named]

theorem requireMember_eq_ok_iff {user : User} :
    requireMember credentials now = .ok user ↔ LoggedIn credentials.session now user := by
  rw [← member_eq_ok_iff]
  unfold requireMember deny
  split <;> simp_all

theorem lookUp_eq_ok_iff {Value : Type} {answer : Except StoreError Value} {value : Value} :
    lookUp answer = .ok value ↔ answer = .ok value := by
  cases answer <;> simp [lookUp]

theorem answer_eq_ok_iff {Value : Type} {operation : Operation} {question : Document → Value}
    {value : Value} :
    repository.answer operation question = .ok value ↔
      repository.faults operation = none ∧ question repository.document = value := by
  unfold Repository.answer
  split <;> simp_all

theorem check_granted_iff {scheme : Scheme} :
    check scheme repository credentials now = .ok (.granted grant) ↔
      decide scheme repository credentials now = .ok grant := by
  unfold check
  split <;> simp_all

theorem bind_eq_ok_iff {First Second : Type} {first : Decision First}
    {next : First → Decision Second} {second : Second} :
    first >>= next = .ok second ↔ ∃ value, first = .ok value ∧ next value = .ok second := by
  cases first with
  | error stop => simp [bind, Except.bind]
  | ok value => simp [bind, Except.bind]

theorem map_eq_ok_iff {First Second : Type} {first : Decision First} {function : First → Second}
    {second : Second} :
    first.map function = .ok second ↔ ∃ value, first = .ok value ∧ function value = second := by
  cases first with
  | error stop => simp [Except.map]
  | ok value => simp [Except.map]

theorem bind_eq_error {Value Next : Type} {decision : Decision Value}
    {next : Value → Decision Next} {stop : Stop} (stopped : decision = .error stop) :
    decision >>= next = .error stop := by
  rw [stopped]
  rfl

theorem of_admin_granted (granted : admin repository credentials now = .ok grant) :
    ∃ user, grant = .member user ∧ LoggedIn credentials.session now user ∧
      repository.document.isAdmin user.id = true := by
  unfold admin at granted
  obtain ⟨user, shown, granted⟩ := bind_eq_ok_iff.mp granted
  obtain ⟨isAdmin, answered, granted⟩ := bind_eq_ok_iff.mp granted
  obtain ⟨-, answered⟩ := answer_eq_ok_iff.mp (lookUp_eq_ok_iff.mp answered)
  cases isAdmin with
  | false => simp [deny] at granted
  | true =>
      simp only [if_true, pure, Except.pure, Except.ok.injEq] at granted
      exact ⟨user, granted.symm, requireMember_eq_ok_iff.mp shown, answered⟩

theorem of_gameRole_granted {allows : GameRole → Bool} {reason : String}
    (granted : gameRole allows reason repository credentials now = .ok grant) :
    ∃ user game, grant = .member user ∧ LoggedIn credentials.session now user ∧
      pathId .game credentials "gameID" = .ok game ∧
      (repository.document.isAdmin user.id = true ∨
        ∃ role, repository.document.gameRole game user.id = some role ∧ allows role = true) := by
  unfold gameRole at granted
  obtain ⟨user, shown, granted⟩ := bind_eq_ok_iff.mp granted
  obtain ⟨game, named, granted⟩ := bind_eq_ok_iff.mp granted
  obtain ⟨isAdmin, answered, granted⟩ := bind_eq_ok_iff.mp granted
  obtain ⟨-, answered⟩ := answer_eq_ok_iff.mp (lookUp_eq_ok_iff.mp answered)
  have loggedIn := requireMember_eq_ok_iff.mp shown
  cases isAdmin with
  | true =>
      simp only [if_true, pure, Except.pure, Except.ok.injEq] at granted
      exact ⟨user, game, granted.symm, loggedIn, named, .inl answered⟩
  | false =>
      simp only [Bool.false_eq_true, if_false] at granted
      obtain ⟨role?, held, granted⟩ := bind_eq_ok_iff.mp granted
      obtain ⟨-, held⟩ := answer_eq_ok_iff.mp (lookUp_eq_ok_iff.mp held)
      cases role? with
      | none => simp [deny] at granted
      | some role =>
          cases allowed : allows role with
          | false => simp [deny, allowed] at granted
          | true =>
              simp only [allowed, if_true, pure, Except.pure, Except.ok.injEq] at granted
              exact ⟨user, game, granted.symm, loggedIn, named, .inr ⟨role, held, allowed⟩⟩

end GameCatalog.Access
