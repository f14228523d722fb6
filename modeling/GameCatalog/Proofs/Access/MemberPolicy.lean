import GameCatalog.Proofs.Access.Policy

/-!
The policy for members.  Those who show no identity that is still good, or no user, are turned
away.  A member may then do what the scheme allows to administrators, to those who look after a
game, or to the managers of an edition.  The check of access decides by this policy and by nothing
else; the authorization header has no part in it.
-/

namespace GameCatalog

def Scheme.forMembers : List Scheme :=
  [.member, .admin, .gameOwner, .gameMaintainer, .editionManager]

theorem Scheme.mem_forMembers_iff {scheme : Scheme} :
    scheme ∈ forMembers ↔ scheme = .member ∨ scheme = .admin ∨ scheme = .gameOwner ∨
      scheme = .gameMaintainer ∨ scheme = .editionManager := by
  simp [forMembers]

namespace Access

/-- The session holds an identity that is still good, and its user. -/
def Identifies (session : Option ClientSession) (now : Instant) (user : User) : Prop :=
  ∃ client identity, session = some client ∧ client.identity = some identity ∧
    client.user = some user ∧ now < identity.expiresAt

def HoldsRole (document : Document) (game : GameId) (user : UserId) (role : GameRole) : Prop :=
  ∃ roles, document.gameRoles.get? game = some roles ∧ roles.get? user = some role

def Manages (document : Document) (edition : EditionId) (user : UserId) : Prop :=
  ∃ record, document.editions.get? edition = some record ∧ user ∈ record.managers

/-- What members may do; of games, administrators may do everything. -/
def MemberMay (document : Document) (parameters : List (String × String)) (user : UserId) :
    Scheme → Prop
  | .member => True
  | .admin => user ∈ document.admins
  | .gameOwner => ∃ game, Names parameters "gameID" game ∧
      (user ∈ document.admins ∨ HoldsRole document game user .owner)
  | .gameMaintainer => ∃ game, Names parameters "gameID" game ∧
      (user ∈ document.admins ∨ HoldsRole document game user .owner ∨
        HoldsRole document game user .maintainer)
  | .editionManager => ∃ edition, Names parameters "editionID" edition ∧
      Manages document edition user
  | _ => False

def MemberPolicy (document : Document) (session : Option ClientSession)
    (parameters : List (String × String)) (now : Instant) (scheme : Scheme) :
    Except CheckError Verdict → Prop :=
  Ruling
    (fun denial =>
      denial = .unauthenticated "no access token" ∧ ∀ user, ¬Identifies session now user)
    (Identifies session now) (fun user => MemberMay document parameters user.id scheme)
    Grant.member parameters scheme

variable {repository : Repository} {credentials : Credentials} {now : Instant} {scheme : Scheme}
  {user : User}

theorem loggedIn_iff_identifies {session : Option ClientSession} :
    LoggedIn session now user ↔ Identifies session now user := by
  have good (identity : IdentitySession) :
      identity.isExpiredAt now = false ↔ now < identity.expiresAt := by
    unfold IdentitySession.isExpiredAt
    rw [decide_eq_false_iff_not, UInt64.not_le]
  unfold LoggedIn Identifies
  simp only [good]
  constructor
  · rintro ⟨client, identity, held, carried, inTime, named⟩
    exact ⟨client, identity, held, carried, named, inTime⟩
  · rintro ⟨client, identity, held, carried, named, inTime⟩
    exact ⟨client, identity, held, carried, inTime, named⟩

theorem member_of_stranger {session : Option ClientSession}
    (stranger : ∀ user, ¬LoggedIn session now user) : member session now = .error noAccessToken := by
  cases shown : member session now with
  | ok user => exact absurd (member_eq_ok_iff.mp shown) (stranger user)
  | error denial =>
      unfold member at shown
      split at shown
      · split at shown
        · contradiction
        · cases shown
          rfl
      · cases shown
        rfl
      · cases shown
        rfl

theorem requireMember_of_stranger (stranger : ∀ user, ¬LoggedIn credentials.session now user) :
    requireMember credentials now = deny noAccessToken := by
  unfold requireMember
  rw [member_of_stranger stranger]

theorem decide_of_stranger (asked : scheme ∈ Scheme.forMembers)
    (stranger : ∀ user, ¬LoggedIn credentials.session now user) :
    decide scheme repository credentials now = deny noAccessToken := by
  have stopped := requireMember_of_stranger stranger
  rcases Scheme.mem_forMembers_iff.mp asked with rfl | rfl | rfl | rfl | rfl
  · rw [decide, stopped]
    rfl
  · exact bind_eq_error stopped
  · exact bind_eq_error stopped
  · exact bind_eq_error stopped
  · exact bind_eq_error stopped

section Known

variable (works : ∀ operation, repository.faults operation = none)
  (known : LoggedIn credentials.session now user)
include works known

theorem admin_of_loggedIn :
    admin repository credentials now =
      if user.id ∈ repository.document.admins then .ok (.member user)
      else deny (.forbidden "you are not admin") := by
  have answered : repository.isAdmin user.id = .ok (repository.document.isAdmin user.id) :=
    answer_of_works works .isAdmin _
  unfold admin
  rw [requireMember_eq_ok_iff.mpr known]
  simp [bind, Except.bind, pure, Except.pure, lookUp, answered, Document.isAdmin]

theorem gameRole_of_loggedIn {game : GameId} (named : Names credentials.parameters "gameID" game)
    (allows : GameRole → Bool) (reason : String) :
    gameRole allows reason repository credentials now =
      if user.id ∈ repository.document.admins ∨
          (repository.document.gameRole game user.id).any allows then .ok (.member user)
      else deny (.forbidden reason) := by
  have answered : repository.isAdmin user.id = .ok (repository.document.isAdmin user.id) :=
    answer_of_works works .isAdmin _
  have told : repository.gameRole game user.id =
      .ok (repository.document.gameRole game user.id) :=
    answer_of_works works .gameRole _
  unfold gameRole
  rw [requireMember_eq_ok_iff.mpr known, pathId_of_names named]
  by_cases administers : user.id ∈ repository.document.admins
  · simp [bind, Except.bind, pure, Except.pure, lookUp, answered, Document.isAdmin, administers]
  · cases held : repository.document.gameRole game user.id with
    | none =>
        simp [bind, Except.bind, lookUp, answered, told, held, Document.isAdmin, administers]
    | some role =>
        simp [bind, Except.bind, pure, Except.pure, lookUp, answered, told, held,
          Document.isAdmin, administers]

theorem editionManager_of_loggedIn {edition : EditionId}
    (named : Names credentials.parameters "editionID" edition) :
    editionManager repository credentials now =
      if repository.document.hasEditionAccess edition user.id then .ok (.member user)
      else deny (.forbidden "you have no access to this edition") := by
  have answered : repository.hasEditionAccess edition user.id =
      .ok (repository.document.hasEditionAccess edition user.id) :=
    answer_of_works works .editionAccess _
  unfold editionManager
  rw [requireMember_eq_ok_iff.mpr known, pathId_of_names named]
  simp [bind, Except.bind, pure, Except.pure, lookUp, answered]

end Known

theorem any_gameRole_iff {document : Document} {game : GameId} {allows : GameRole → Bool} :
    (document.gameRole game user.id).any allows = true ↔
      ∃ role, HoldsRole document game user.id role ∧ allows role = true := by
  simp only [Option.any_eq_true, Document.gameRole, Option.bind_eq_some_iff, HoldsRole]

theorem hasEditionAccess_iff {document : Document} {edition : EditionId} :
    document.hasEditionAccess edition user.id = true ↔ Manages document edition user.id := by
  unfold Document.hasEditionAccess Manages
  cases document.editions.get? edition <;> simp

theorem decide_of_loggedIn (works : ∀ operation, repository.faults operation = none)
    (asked : scheme ∈ Scheme.forMembers) (known : LoggedIn credentials.session now user)
    (named : Named credentials.parameters scheme) :
    (MemberMay repository.document credentials.parameters user.id scheme →
      decide scheme repository credentials now = .ok (.member user)) ∧
    (¬MemberMay repository.document credentials.parameters user.id scheme →
      decide scheme repository credentials now = deny (.forbidden scheme.refusal)) := by
  rcases Scheme.mem_forMembers_iff.mp asked with rfl | rfl | rfl | rfl | rfl
  · refine ⟨fun _ => ?_, fun mayNot => absurd trivial mayNot⟩
    rw [decide, requireMember_eq_ok_iff.mpr known]
    rfl
  · have same : MemberMay repository.document credentials.parameters user.id .admin ↔
        user.id ∈ repository.document.admins := Iff.rfl
    exact decides_of_ite same (admin_of_loggedIn works known)
  · obtain ⟨game, named⟩ := named .game "gameID" rfl
    refine decides_of_ite ?_ (gameRole_of_loggedIn works known named _ _)
    rw [any_gameRole_iff]
    apply (exists_names_iff named).trans
    apply or_congr_right
    constructor
    · exact fun held => ⟨.owner, held, rfl⟩
    · rintro ⟨_ | _, held, allowed⟩
      · exact held
      · contradiction
  · obtain ⟨game, named⟩ := named .game "gameID" rfl
    refine decides_of_ite ?_ (gameRole_of_loggedIn works known named _ _)
    rw [any_gameRole_iff]
    apply (exists_names_iff named).trans
    apply or_congr_right
    constructor
    · rintro (held | held)
      · exact ⟨.owner, held, rfl⟩
      · exact ⟨.maintainer, held, rfl⟩
    · rintro ⟨_ | _, held, -⟩
      · exact .inl held
      · exact .inr held
  · obtain ⟨edition, named⟩ := named .edition "editionID" rfl
    refine decides_of_ite ?_ (editionManager_of_loggedIn works known named)
    rw [hasEditionAccess_iff]
    exact exists_names_iff named

theorem admitted_of_loggedIn {document : Document} (asked : scheme ∈ Scheme.forMembers)
    (known : LoggedIn credentials.session now user) :
    Admitted scheme document credentials now := by
  rcases Scheme.mem_forMembers_iff.mp asked with rfl | rfl | rfl | rfl | rfl <;> exact ⟨user, known⟩

theorem staged_member (works : ∀ operation, repository.faults operation = none)
    (asked : scheme ∈ Scheme.forMembers) :
    Staged (check scheme repository credentials now)
      (fun denial => denial = .unauthenticated "no access token" ∧
        ∀ user, ¬Identifies credentials.session now user)
      (Identifies credentials.session now)
      (fun user => MemberMay repository.document credentials.parameters user.id scheme)
      Grant.member credentials.parameters scheme := by
  have same : Identifies credentials.session now = LoggedIn credentials.session now :=
    funext fun user => propext loggedIn_iff_identifies.symm
  rw [same]
  constructor
  · by_cases known : ∃ user, LoggedIn credentials.session now user
    · exact .inr known
    · exact .inl ⟨_, rfl, not_exists.mp known⟩
  · rintro denial ⟨rfl, stranger⟩
    exact check_denied_iff.mpr (decide_of_stranger asked stranger)
  · intro user outcome known unnamed
    exact check_of_unnamed works (admitted_of_loggedIn asked known) unnamed
  · intro user known named may
    exact check_granted_iff.mpr ((decide_of_loggedIn works asked known named).1 may)
  · intro user known named mayNot
    exact check_denied_iff.mpr ((decide_of_loggedIn works asked known named).2 mayNot)

/--
Access that asks for a member is decided by the policy for members, in every case and in no other
way.  Whatever is granted is granted to the member who is identified, and another authorization
header makes no difference.
-/
theorem check_iff_memberPolicy (document : Document) (credentials : Credentials) (now : Instant)
    {scheme : Scheme} (asked : scheme ∈ Scheme.forMembers) :
    let checked := check scheme ⟨document, Faults.none⟩ credentials now
    (∀ outcome, checked = outcome ↔
      MemberPolicy document credentials.session credentials.parameters now scheme outcome) ∧
    (∀ grant, checked = .ok (.granted grant) →
      ∃ user, grant = .member user ∧ Identifies credentials.session now user) ∧
    ∀ authorization,
      check scheme ⟨document, Faults.none⟩ { credentials with authorization } now = checked := by
  intro checked
  have works : ∀ operation, Faults.none operation = none := fun _ => rfl
  have decided : ∀ outcome, checked = outcome ↔
      MemberPolicy document credentials.session credentials.parameters now scheme outcome :=
    fun outcome => (staged_member works asked).eq_iff_ruling
  refine ⟨decided, ?_, ?_⟩
  · intro grant granted
    exact ((decided _).mp granted).known_of_granted
  · intro authorization
    have same := (decided checked).mp rfl
    exact (staged_member works asked).eq_iff_ruling.mpr same

/--
Whoever maintains a game may do what asks for a maintainer, but not what asks for an owner.
-/
theorem check_iff_memberPolicy_maintainer :
    let user : User := ⟨⟨1⟩, "Ada"⟩
    let document : Document :=
      { gameRoles := Table.empty.insert ⟨7⟩ (Table.empty.insert user.id .maintainer) }
    let credentials : Credentials := {
      session := some { identity := some ⟨⟨"issued"⟩, 1000, none⟩, user := some user }
      parameters := [("gameID", "00000000-0000-0000-0000-000000000007")] }
    check .gameMaintainer ⟨document, Faults.none⟩ credentials 999 = .ok (.granted (.member user)) ∧
      check .gameOwner ⟨document, Faults.none⟩ credentials 999 =
        .ok (.denied (.forbidden "you are not owner of this game")) := by
  intro user document credentials
  have identified : Identifies credentials.session 999 user := by
    exact ⟨_, _, rfl, rfl, rfl, by decide⟩
  have spelled : Id.ofText? "00000000-0000-0000-0000-000000000007" = some (⟨7⟩ : GameId) := by
    decide +kernel
  have names : Names credentials.parameters "gameID" (⟨7⟩ : GameId) := ⟨_, rfl, spelled⟩
  have asksMaintainer : Scheme.gameMaintainer ∈ Scheme.forMembers := by decide
  have asksOwner : Scheme.gameOwner ∈ Scheme.forMembers := by decide
  constructor
  · apply ((check_iff_memberPolicy document credentials 999 asksMaintainer).1 _).mpr
    refine .granted identified ?_ ⟨⟨7⟩, names, .inr (.inr ⟨_, rfl, rfl⟩)⟩
    rintro _ _ ⟨⟩
    exact ⟨_, names⟩
  · apply ((check_iff_memberPolicy document credentials 999 asksOwner).1 _).mpr
    refine .refused identified ?_ ?_
    · rintro _ _ ⟨⟩
      exact ⟨_, names⟩
    · rintro ⟨game, otherNames, administers | ⟨roles, found, held⟩⟩
      · contradiction
      · cases names_unique names otherNames
        cases found
        exact absurd held (by decide)

end Access

end GameCatalog
