import GameCatalog.Proofs.Access.MemberPolicy

/-!
The policy for games that may be public.  The path is read before anything else, and a game has to
be there before it matters who asks for it.  Members see every game; those who are not identified
see the public ones, and are otherwise told to log in.  The game and its files are under one
policy, and the authorization header has no part in it.
-/

namespace GameCatalog

def Scheme.forAnyone : List Scheme :=
  [.gameInfo, .gameFiles]

namespace Access

/-- How a request ends that asks for a game, or for its files. -/
inductive VisibilityPolicy (document : Document) (session : Option ClientSession)
    (parameters : List (String × String)) (now : Instant) : Except CheckError Verdict → Prop where
  | absent (absent : parameters.lookup "gameID" = none) :
      VisibilityPolicy document session parameters now (.error (.missingParameter "gameID"))
  | misspelled {text : String} (found : parameters.lookup "gameID" = some text)
      (misspelled : (Id.ofText? text : Option GameId) = none) :
      VisibilityPolicy document session parameters now
        (.ok (.denied (.invalidRequest "invalid gameID")))
  | unknown {id : GameId} (named : Names parameters "gameID" id)
      (unknown : document.games.get? id = none) :
      VisibilityPolicy document session parameters now
        (.ok (.denied (.notFound "game not found")))
  | member {id : GameId} {game : Game} {user : User} (named : Names parameters "gameID" id)
      (known : document.games.get? id = some game) (identified : Identifies session now user) :
      VisibilityPolicy document session parameters now (.ok (.granted (.member user)))
  | anonymous {id : GameId} {game : Game} (named : Names parameters "gameID" id)
      (known : document.games.get? id = some game) (stranger : ∀ user, ¬Identifies session now user)
      (isPublic : game.visibility = .public) :
      VisibilityPolicy document session parameters now (.ok (.granted .anonymous))
  | hidden {id : GameId} {game : Game} (named : Names parameters "gameID" id)
      (known : document.games.get? id = some game) (stranger : ∀ user, ¬Identifies session now user)
      (notPublic : game.visibility ≠ .public) :
      VisibilityPolicy document session parameters now
        (.ok (.denied (.unauthenticated "no access token")))

variable {repository : Repository} {credentials : Credentials} {now : Instant} {scheme : Scheme}
  {id : GameId} {game : Game}

theorem decide_of_forAnyone (asked : scheme ∈ Scheme.forAnyone) :
    decide scheme repository credentials now = visibility repository credentials now := by
  have one : scheme = .gameInfo ∨ scheme = .gameFiles := by simpa [Scheme.forAnyone] using asked
  rcases one with rfl | rfl <;> rfl

theorem member_of_identifies {session : Option ClientSession} {user : User}
    (identified : Identifies session now user) : member session now = .ok user :=
  member_eq_ok_iff.mpr (loggedIn_iff_identifies.mpr identified)

theorem member_of_unidentified {session : Option ClientSession}
    (stranger : ∀ user, ¬Identifies session now user) :
    member session now = .error noAccessToken := by
  apply member_of_stranger
  intro user loggedIn
  exact stranger user (loggedIn_iff_identifies.mp loggedIn)

theorem exists_visibilityPolicy (document : Document) (session : Option ClientSession)
    (parameters : List (String × String)) (now : Instant) :
    ∃ outcome, VisibilityPolicy document session parameters now outcome := by
  cases found : parameters.lookup "gameID" with
  | none => exact ⟨_, .absent found⟩
  | some text =>
  cases spelled : (Id.ofText? text : Option GameId) with
  | none => exact ⟨_, .misspelled found spelled⟩
  | some id =>
  have named : Names parameters "gameID" id := ⟨text, found, spelled⟩
  cases known : document.games.get? id with
  | none => exact ⟨_, .unknown named known⟩
  | some game =>
  by_cases identified : ∃ user, Identifies session now user
  · obtain ⟨user, identified⟩ := identified
    exact ⟨_, .member named known identified⟩
  · have stranger := not_exists.mp identified
    by_cases isPublic : game.visibility = .public
    · exact ⟨_, .anonymous named known stranger isPublic⟩
    · exact ⟨_, .hidden named known stranger isPublic⟩

section Works

variable (works : ∀ operation, repository.faults operation = none)
include works

theorem visibility_of_unknown (named : Names credentials.parameters "gameID" id)
    (unknown : repository.document.games.get? id = none) :
    visibility repository credentials now = deny (.notFound "game not found") := by
  unfold visibility
  rw [pathId_of_names named]
  simp only [bind, Except.bind, getGame_of_works works, unknown, lookUp]

theorem visibility_of_known (named : Names credentials.parameters "gameID" id)
    (known : repository.document.games.get? id = some game) :
    visibility repository credentials now =
      match member credentials.session now with
      | .ok user => .ok (.member user)
      | .error denial =>
          if game.visibility = .public then .ok .anonymous else deny denial := by
  unfold visibility
  rw [pathId_of_names named]
  simp only [bind, Except.bind, getGame_of_works works, known, lookUp]
  rfl

theorem check_of_visibilityPolicy (asked : scheme ∈ Scheme.forAnyone)
    {outcome : Except CheckError Verdict}
    (policy : VisibilityPolicy repository.document credentials.session credentials.parameters now
      outcome) :
    check scheme repository credentials now = outcome := by
  have decided : decide scheme repository credentials now =
      visibility repository credentials now := decide_of_forAnyone asked
  cases policy with
  | absent absent =>
      apply check_error_iff.mpr
      rw [decided]
      exact ((needs_visibility works).failed_iff _).mpr ⟨rfl, trivial, absent⟩
  | misspelled found misspelled =>
      apply check_denied_iff.mpr
      rw [decided]
      exact (needs_visibility works).malformed trivial _ found misspelled
  | unknown named unknown =>
      apply check_denied_iff.mpr
      rw [decided, visibility_of_unknown works named unknown]
  | member named known identified =>
      apply check_granted_iff.mpr
      rw [decided, visibility_of_known works named known, member_of_identifies identified]
  | anonymous named known stranger isPublic =>
      apply check_granted_iff.mpr
      rw [decided, visibility_of_known works named known, member_of_unidentified stranger]
      exact if_pos isPublic
  | hidden named known stranger notPublic =>
      apply check_denied_iff.mpr
      rw [decided, visibility_of_known works named known, member_of_unidentified stranger]
      exact if_neg notPublic

/-- Access to what may be public is decided by its policy, in every case and in no other way. -/
theorem check_eq_iff_visibilityPolicy (asked : scheme ∈ Scheme.forAnyone)
    {outcome : Except CheckError Verdict} :
    check scheme repository credentials now = outcome ↔
      VisibilityPolicy repository.document credentials.session credentials.parameters now
        outcome := by
  constructor
  · rintro rfl
    obtain ⟨outcome, policy⟩ := exists_visibilityPolicy repository.document credentials.session
      credentials.parameters now
    rw [check_of_visibilityPolicy works asked policy]
    exact policy
  · exact check_of_visibilityPolicy works asked

theorem anonymous_iff_public (asked : scheme ∈ Scheme.forAnyone)
    (named : Names credentials.parameters "gameID" id)
    (stranger : ∀ user, ¬Identifies credentials.session now user) :
    check scheme repository credentials now = .ok (.granted .anonymous) ↔
      (repository.document.games.get? id).map Game.visibility = some .public := by
  rw [check_granted_iff, decide_of_forAnyone asked]
  cases known : repository.document.games.get? id with
  | none => simp [visibility_of_unknown works named known, deny]
  | some game =>
      rw [visibility_of_known works named known, member_of_unidentified stranger]
      by_cases isPublic : game.visibility = .public
      · simp [isPublic]
      · simp [isPublic, deny]

end Works

end Access

end GameCatalog
