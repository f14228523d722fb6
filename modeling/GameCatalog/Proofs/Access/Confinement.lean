import GameCatalog.Proofs.Access.Faults
import GameCatalog.Proofs.Access.LauncherPolicy
import GameCatalog.Proofs.Launcher.Confinement

/-!
What the holder of a token is granted.  A token that leads to an edition is granted access to the
record of that edition and to no other one.  And what is decided depends on nothing but what
stands behind the token: its session, the key of that, the record of the edition and its games.
-/

namespace GameCatalog.Access

open Launcher (Leads)

section Grants

variable {repository : Repository} {credentials : Credentials} {now : Instant} {edition : Edition}

/-- What a scheme for launchers grants: the edition of the launcher, and of games only its own. -/
theorem of_launcher_granted {scheme : Scheme} {grant : Grant} (asked : scheme ∈ Scheme.forLaunchers)
    (granted : decide scheme repository credentials now = .ok grant) :
    ∃ edition, grant = .launcher edition ∧ launcher repository credentials now = .ok edition ∧
      (scheme = .launcherGame → ∃ game, pathId .game credentials "gameID" = .ok game ∧
        game ∈ edition.gameIds) := by
  rcases Scheme.mem_forLaunchers_iff.mp asked with rfl | rfl | rfl | rfl
  · obtain ⟨edition, shown, rfl⟩ := map_eq_ok_iff.mp granted
    exact ⟨edition, rfl, shown, fun other => nomatch other⟩
  · obtain ⟨edition, shown, granted⟩ := bind_eq_ok_iff.mp granted
    obtain ⟨wanted, -, granted⟩ := bind_eq_ok_iff.mp granted
    split at granted <;> cases granted
    exact ⟨edition, rfl, shown, fun other => nomatch other⟩
  · obtain ⟨edition, shown, granted⟩ := bind_eq_ok_iff.mp granted
    obtain ⟨game, named, granted⟩ := bind_eq_ok_iff.mp granted
    by_cases membership : game ∈ edition.gameIds
    · rw [if_pos membership] at granted
      cases granted
      exact ⟨edition, rfl, shown, fun _ => ⟨game, named, membership⟩⟩
    · rw [if_neg membership] at granted
      cases granted
  · obtain ⟨edition, shown, granted⟩ := bind_eq_ok_iff.mp granted
    obtain ⟨file, -, granted⟩ := bind_eq_ok_iff.mp granted
    obtain ⟨found, -, granted⟩ := bind_eq_ok_iff.mp granted
    split at granted <;> cases granted
    exact ⟨edition, rfl, shown, fun other => nomatch other⟩

theorem launcher_of_granted {scheme : Scheme}
    (granted : decide scheme repository credentials now = .ok (.launcher edition)) :
    launcher repository credentials now = .ok edition := by
  cases scheme with
  | launcher | launcherEdition | launcherGame | launcherFile =>
      obtain ⟨other, same, shown, -⟩ := of_launcher_granted (by decide) granted
      cases same
      exact shown
  | member =>
      obtain ⟨user, -, isMember⟩ := map_eq_ok_iff.mp granted
      contradiction
  | admin =>
      obtain ⟨user, isMember, -⟩ := of_admin_granted granted
      contradiction
  | gameOwner | gameMaintainer =>
      obtain ⟨user, game, isMember, -⟩ := of_gameRole_granted granted
      contradiction
  | editionManager =>
      obtain ⟨user, -, granted⟩ := bind_eq_ok_iff.mp granted
      obtain ⟨wanted, -, granted⟩ := bind_eq_ok_iff.mp granted
      obtain ⟨allowed, -, granted⟩ := bind_eq_ok_iff.mp granted
      split at granted <;> cases granted
  | gameInfo | gameFiles =>
      obtain ⟨id, -, granted⟩ := bind_eq_ok_iff.mp granted
      obtain ⟨game, -, granted⟩ := bind_eq_ok_iff.mp granted
      split at granted
      · split at granted
        · cases granted
        · split at granted <;> cases granted
      · cases granted

/-- Whatever fails, a launcher is let in only by the token of a session that is not over. -/
theorem bears_of_launcher (passed : launcher repository credentials now = .ok edition) :
    Bears repository.document credentials.authorization now edition := by
  obtain ⟨document, faults⟩ := repository
  obtain ⟨operations, consults⟩ := failsClosed_launcher document credentials now
  have decided := consults faults
  dsimp only at decided
  rw [passed] at decided
  cases failing : faults.first? operations with
  | some failure =>
      rw [failing] at decided
      contradiction
  | none =>
      rw [failing] at decided
      exact (@launcher_eq_ok_iff ⟨document, Faults.none⟩ credentials now (fun _ => rfl) _).mp
        decided.symm

variable {document : Document} {token : String} {id : EditionId}

theorem edition_of_bears (leads : Leads document token id)
    (bears : Bears document (some ("Bearer " ++ token)) now edition) :
    document.editions.get? id = some edition := by
  obtain ⟨header, characters, access, shown, cut, -, found, -, rfl⟩ := bears
  cases shown
  have same : characters = token.toList := by
    rw [afterBearer_iff, ← String.toList_inj, String.toList_append, String.toList_append,
      List.append_cancel_left_eq, String.toList_ofList] at cut
    exact cut.symm
  rw [same, String.ofList_toList] at found
  obtain ⟨stored, membership, key, sameSession, sameToken, keyThere, editionThere⟩ :=
    opens_of_found found
  rw [← sameSession] at sameToken
  rw [← leads.owned stored membership sameToken key keyThere]
  exact editionThere

theorem known_of_launcher (leads : Leads repository.document token id)
    (shown : credentials.authorization = some ("Bearer " ++ token))
    (passed : launcher repository credentials now = .ok edition) :
    repository.document.editions.get? id = some edition := by
  have bears := bears_of_launcher passed
  rw [shown] at bears
  exact edition_of_bears leads bears

theorem edition_of_granted {scheme : Scheme} (leads : Leads repository.document token id)
    (shown : credentials.authorization = some ("Bearer " ++ token))
    (granted : check scheme repository credentials now = .ok (.granted (.launcher edition))) :
    repository.document.editions.get? id = some edition :=
  known_of_launcher leads shown (launcher_of_granted (check_granted_iff.mp granted))

end Grants

/--
The second document has the same things behind a token of an edition: the record of the edition,
the sessions with the token and their keys, and the games of the edition.
-/
structure AlikeBehind (id : EditionId) (token : String) (first second : Document) : Prop where
  edition : second.editions.get? id = first.editions.get? id
  sessions : ∀ stored : StoredSession, stored.session.accessToken.expose = token →
    (stored ∈ second.launcherSessions.values ↔ stored ∈ first.launcherSessions.values)
  keys : ∀ stored ∈ first.launcherSessions.values, stored.session.accessToken.expose = token →
    second.productKeys.get? stored.productKey = first.productKeys.get? stored.productKey
  games : ∀ edition, first.editions.get? id = some edition → ∀ game ∈ edition.gameIds,
    second.games.get? game = first.games.get? game

section Alike

variable {first second : Document} {id : EditionId} {token : String}

theorem alikeBehind_insertEdition (document : Document) (token : String) {edition : Edition}
    (different : edition.id ≠ id) :
    AlikeBehind id token document (document.insertEdition edition) where
  edition := by
    unfold Document.insertEdition
    rw [Table.get?_insert, if_neg different]
  sessions := fun _ _ => Iff.rfl
  keys := fun _ _ _ => rfl
  games := fun _ _ _ _ => rfl

theorem search_alikeBehind (leads : Leads first token id)
    (alike : AlikeBehind id token first second) :
    (second.launcherSessions.search fun stored => stored.session.accessToken.expose = token) =
      first.launcherSessions.search fun stored => stored.session.accessToken.expose = token := by
  cases there : second.launcherSessions.search fun stored =>
      stored.session.accessToken.expose = token with
  | none =>
      have absent := List.find?_eq_none.mp there
      symm
      apply List.find?_eq_none.mpr
      intro stored membership passed
      have sameToken := of_decide_eq_true passed
      exact absent stored ((alike.sessions stored sameToken).mpr membership) passed
  | some stored =>
      obtain ⟨found, passed⟩ := Table.search_eq_some there
      have sameToken := of_decide_eq_true passed
      have membership := (alike.sessions stored sameToken).mp (Table.mem_values_iff.mpr found)
      obtain ⟨key, foundHere⟩ := Table.mem_values_iff.mp membership
      symm
      apply Table.search_eq_some_of_unique foundHere passed
      intro other otherMembership otherPassed
      exact leads.sole other otherMembership stored membership (of_decide_eq_true otherPassed)
        sameToken

theorem findLauncherSession_alikeBehind (leads : Leads first token id)
    (alike : AlikeBehind id token first second) :
    second.findLauncherSession token = first.findLauncherSession token := by
  unfold Document.findLauncherSession
  rw [search_alikeBehind leads alike]
  cases searched : first.launcherSessions.search fun stored =>
      stored.session.accessToken.expose = token with
  | none => rfl
  | some stored =>
      obtain ⟨found, passed⟩ := Table.search_eq_some searched
      have membership := Table.mem_values_iff.mpr found
      have sameToken := of_decide_eq_true passed
      simp only [bind, Option.bind, alike.keys stored membership sameToken]
      cases keyThere : first.productKeys.get? stored.productKey with
      | none => rfl
      | some key =>
          simp only [leads.owned stored membership sameToken key keyThere, alike.edition]

theorem hasFile_congr {here there : Repository} (file : GameFileId) {ids : List GameId}
    (same : ∀ id ∈ ids, there.getGame id = here.getGame id) :
    hasFile there file ids = hasFile here file ids := by
  induction ids with
  | nil => rfl
  | cons id ids inductionHypothesis =>
      rw [List.forall_mem_cons] at same
      simp only [hasFile, same.1, inductionHypothesis same.2]

variable {faults : Faults} {credentials : Credentials} {now : Instant}

theorem getGame_alikeBehind {edition : Edition} (alike : AlikeBehind id token first second)
    (known : first.editions.get? id = some edition) :
    ∀ game ∈ edition.gameIds,
      Repository.getGame ⟨second, faults⟩ game = Repository.getGame ⟨first, faults⟩ game := by
  intro game membership
  unfold Repository.getGame Repository.answer
  dsimp only
  rw [alike.games edition known game membership]

theorem launcher_alikeBehind (leads : Leads first token id)
    (alike : AlikeBehind id token first second)
    (shown : credentials.authorization = some ("Bearer " ++ token)) :
    launcher ⟨second, faults⟩ credentials now = launcher ⟨first, faults⟩ credentials now := by
  have same : Repository.validateSession ⟨second, faults⟩ token now =
      Repository.validateSession ⟨first, faults⟩ token now := by
    unfold Repository.validateSession Repository.findLauncherSession Repository.answer
    dsimp only
    rw [findLauncherSession_alikeBehind leads alike]
  rw [launcher_of_bearer shown, launcher_of_bearer shown, same]

theorem check_alikeBehind {scheme : Scheme} (asked : scheme ∈ Scheme.forLaunchers)
    (leads : Leads first token id) (alike : AlikeBehind id token first second)
    (shown : credentials.authorization = some ("Bearer " ++ token)) :
    check scheme ⟨second, faults⟩ credentials now =
      check scheme ⟨first, faults⟩ credentials now := by
  have same : launcher ⟨second, faults⟩ credentials now =
      launcher ⟨first, faults⟩ credentials now := launcher_alikeBehind leads alike shown
  have sameDecision : decide scheme ⟨second, faults⟩ credentials now =
      decide scheme ⟨first, faults⟩ credentials now := by
    rcases Scheme.mem_forLaunchers_iff.mp asked with rfl | rfl | rfl | rfl
    · unfold decide
      rw [same]
    · unfold decide launcherEdition
      rw [same]
    · unfold decide launcherGame
      rw [same]
    · unfold decide launcherFile
      rw [same]
      cases passed : launcher ⟨first, faults⟩ credentials now with
      | error stop => rfl
      | ok edition =>
          have known := known_of_launcher leads shown passed
          have sameGames := @getGame_alikeBehind _ _ _ _ faults _ alike known
          simp only [bind, Except.bind, hasFile_congr _ sameGames]
  unfold check
  rw [sameDecision]

end Alike

end GameCatalog.Access
