import GameCatalog.Proofs.Access.Decision
import GameCatalog.Proofs.Alike

/-!
Requests of those who are not logged in.  Such a request shows no identity and no launcher
session that is not over, so the guards decide alike on it in alike worlds: they turn it away
for the same reason, or let it see a game that is public in both.
-/

namespace GameCatalog.Access

variable {first second : World} {credentials : Credentials} {now : Instant}

def LoggedOut (session : Option ClientSession) (now : Instant) : Prop :=
  ∀ client identity, session = some client → client.identity = some identity →
    identity.isExpiredAt now = true

/-- The header shows no token of a session that is not over. -/
def Unauthorized (document : Document) (authorization : Option String) (now : Instant) : Prop :=
  ∀ header token access, authorization = some header →
    Split.afterPrefix? bearer header.toList = some token →
    document.findLauncherSession (String.ofList token) = some access →
    access.session.isExpiredAt now = true

theorem member_of_loggedOut {session : Option ClientSession} (loggedOut : LoggedOut session now) :
    member session now = .error noAccessToken := by
  unfold member
  cases session with
  | none => rfl
  | some client =>
      cases carried : client.identity with
      | none => simp [Authentication.ofSession, carried]
      | some identity =>
          have expired := loggedOut client identity rfl carried
          simp [Authentication.ofSession, carried, expired]

theorem requireMember_of_loggedOut (loggedOut : LoggedOut credentials.session now) :
    requireMember credentials now = deny noAccessToken := by
  unfold requireMember
  rw [member_of_loggedOut loggedOut]

theorem getGame_alike (alike : first.Alike second) (id : GameId) :
    (∃ error, first.repository.getGame id = .error error ∧
      second.repository.getGame id = .error error) ∨
    (first.faults .getGame = none ∧
      first.repository.getGame id = .ok (first.store.live.games.get? id) ∧
      second.repository.getGame id = .ok (second.store.live.games.get? id)) := by
  have sameFaults : second.faults .getGame = first.faults .getGame := by rw [alike.faults]
  unfold Repository.getGame Repository.answer World.repository
  cases failing : first.faults .getGame with
  | some error => exact .inl ⟨error, by simp [failing], by simp [sameFaults, failing]⟩
  | none => exact .inr ⟨rfl, by simp [failing], by simp [sameFaults, failing]⟩

theorem validateSession_alike (alike : first.Alike second) {token : String}
    (notLive : ∀ access, first.store.live.findLauncherSession token = some access →
      access.session.isExpiredAt now = true) :
    ∃ error, first.repository.validateSession token now = .error error ∧
      second.repository.validateSession token now = .error error := by
  have sameFaults : second.faults .findLauncherSession = first.faults .findLauncherSession := by
    rw [alike.faults]
  have sameSessions := alike.store.live.findLauncherSession token
  unfold Repository.validateSession Repository.findLauncherSession Repository.answer
    World.repository
  cases failing : first.faults .findLauncherSession with
  | some error => exact ⟨.ofStore error, by simp [failing], by simp [sameFaults, failing]⟩
  | none =>
      cases firstFound : first.store.live.findLauncherSession token with
      | none =>
          rw [firstFound, Option.map_none, eq_comm, Option.map_eq_none_iff] at sameSessions
          exact ⟨.invalidToken, by simp [failing, firstFound],
            by simp [sameFaults, failing, sameSessions]⟩
      | some access =>
          have expired := notLive access firstFound
          rw [firstFound, Option.map_some, eq_comm, Option.map_eq_some_iff] at sameSessions
          obtain ⟨other, secondFound, sameSession⟩ := sameSessions
          have expiredThere : other.session.isExpiredAt now = true := by rw [sameSession, expired]
          exact ⟨.expired, by simp [failing, firstFound, expired],
            by simp [sameFaults, failing, secondFound, expiredThere]⟩

theorem launcher_alike (alike : first.Alike second)
    (unauthorized : Unauthorized first.store.live credentials.authorization now) :
    ∃ stop, launcher first.repository credentials now = .error stop ∧
      launcher second.repository credentials now = .error stop := by
  unfold launcher
  cases shown : credentials.authorization with
  | none => exact ⟨_, rfl, rfl⟩
  | some header =>
      cases cut : Split.afterPrefix? bearer header.toList with
      | none => exact ⟨.denied (.invalidRequest "invalid authorization header"),
          by simp [cut, deny], by simp [cut, deny]⟩
      | some token =>
          cases valid : AccessToken.isValid (String.ofList token) with
          | false => exact ⟨.denied (.unauthenticated "invalid access token"),
              by simp [cut, valid, deny], by simp [cut, valid, deny]⟩
          | true =>
              obtain ⟨error, firstFailed, secondFailed⟩ := validateSession_alike alike
                fun access found => unauthorized header token access shown cut found
              simp only [cut, valid, Bool.not_true, Bool.false_eq_true, if_false, firstFailed,
                secondFailed]
              cases error <;> exact ⟨_, rfl, rfl⟩

theorem visibility_alike (alike : first.Alike second)
    (loggedOut : LoggedOut credentials.session now) :
    (∃ stop, visibility first.repository credentials now = .error stop ∧
      visibility second.repository credentials now = .error stop) ∨
    ∃ id game, pathId .game credentials "gameID" = .ok id ∧ first.faults .getGame = none ∧
      first.store.live.games.get? id = some game ∧ game.visibility = .public ∧
      visibility first.repository credentials now = .ok .anonymous ∧
      visibility second.repository credentials now = .ok .anonymous := by
  have noMember := member_of_loggedOut loggedOut
  unfold visibility
  cases named : pathId .game credentials "gameID" with
  | error stop => exact .inl ⟨stop, rfl, rfl⟩
  | ok id =>
      rcases getGame_alike alike id with
        ⟨error, firstFailed, secondFailed⟩ | ⟨works, firstAnswered, secondAnswered⟩
      · exact .inl ⟨.failed (.lookup error.message),
          by simp [bind, Except.bind, firstFailed, lookUp],
          by simp [bind, Except.bind, secondFailed, lookUp]⟩
      · cases found : first.store.live.games.get? id with
        | none =>
            have games := alike.store.live.games id
            rw [found, eq_comm, Option.isSome_none, Option.isSome_eq_false_iff,
              Option.isNone_iff_eq_none] at games
            exact .inl ⟨.denied (.notFound "game not found"),
              by simp [bind, Except.bind, firstAnswered, found, lookUp, deny],
              by simp [bind, Except.bind, secondAnswered, games, lookUp, deny]⟩
        | some game =>
            by_cases isPublic : game.visibility = .public
            · have there := alike.store.live.game_of_public found isPublic
              exact .inr ⟨id, game, rfl, works, found, isPublic,
                by simp [bind, Except.bind, firstAnswered, found, lookUp, noMember, isPublic, pure,
                  Except.pure],
                by simp [bind, Except.bind, secondAnswered, there, lookUp, noMember, isPublic, pure,
                  Except.pure]⟩
            · obtain ⟨other, there, notPublic⟩ :=
                alike.store.live.game_of_not_public found isPublic
              exact .inl ⟨.denied noAccessToken,
                by simp [bind, Except.bind, firstAnswered, found, lookUp, noMember, isPublic, deny],
                by simp [bind, Except.bind, secondAnswered, there, lookUp, noMember, notPublic,
                  deny]⟩

/--
Alike worlds decide alike about those who are not logged in: they stop for the same reason, or
a scheme of public games lets anyone see a game that is public in both worlds.
-/
theorem decide_alike (alike : first.Alike second) (scheme : Scheme)
    (loggedOut : LoggedOut credentials.session now)
    (unauthorized : Unauthorized first.store.live credentials.authorization now) :
    (∃ stop, decide scheme first.repository credentials now = .error stop ∧
      decide scheme second.repository credentials now = .error stop) ∨
    ((scheme = .gameInfo ∨ scheme = .gameFiles) ∧
      ∃ id game, pathId .game credentials "gameID" = .ok id ∧ first.faults .getGame = none ∧
        first.store.live.games.get? id = some game ∧ game.visibility = .public ∧
        decide scheme first.repository credentials now = .ok .anonymous ∧
        decide scheme second.repository credentials now = .ok .anonymous) := by
  have noMember := requireMember_of_loggedOut loggedOut
  obtain ⟨stop, firstStopped, secondStopped⟩ := launcher_alike alike unauthorized
  cases scheme with
  | member => exact .inl ⟨_, by rw [decide, noMember]; rfl, by rw [decide, noMember]; rfl⟩
  | admin => exact .inl ⟨_, bind_eq_error noMember, bind_eq_error noMember⟩
  | gameOwner => exact .inl ⟨_, bind_eq_error noMember, bind_eq_error noMember⟩
  | gameMaintainer => exact .inl ⟨_, bind_eq_error noMember, bind_eq_error noMember⟩
  | editionManager => exact .inl ⟨_, bind_eq_error noMember, bind_eq_error noMember⟩
  | launcher =>
      exact .inl ⟨stop, by rw [decide, firstStopped]; rfl, by rw [decide, secondStopped]; rfl⟩
  | launcherEdition => exact .inl ⟨stop, bind_eq_error firstStopped, bind_eq_error secondStopped⟩
  | launcherGame => exact .inl ⟨stop, bind_eq_error firstStopped, bind_eq_error secondStopped⟩
  | launcherFile => exact .inl ⟨stop, bind_eq_error firstStopped, bind_eq_error secondStopped⟩
  | gameInfo =>
      rcases visibility_alike alike loggedOut with stopped | seen
      · exact .inl stopped
      · exact .inr ⟨.inl rfl, seen⟩
  | gameFiles =>
      rcases visibility_alike alike loggedOut with stopped | seen
      · exact .inl stopped
      · exact .inr ⟨.inr rfl, seen⟩

end GameCatalog.Access
