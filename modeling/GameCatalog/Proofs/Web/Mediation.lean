import GameCatalog.Proofs.Store.Table
import GameCatalog.Proofs.Web.Handler
import GameCatalog.Proofs.Web.Parameter

/-!
Complete mediation.  A request changes the document only in one of four ways, each at a
place of its own and each only for those who may ask for it; and whoever is told of a failure
finds the document as it was.
-/

namespace GameCatalog

/-- The ways in which a request can change the document. -/
inductive Amendment where
  | redemption
  | issue
  | switch
  | exposure
  deriving DecidableEq

namespace Amendment

variable (gateway : Gateway) (request : Request) (now : Instant) (before after : Document)

structure Redemption (key : ProductKey) (session : LauncherSession) : Prop where
  method : request.method = "POST"
  path : request.path = "/editions/authorize".toList
  asked : ∃ text, request.jsonBody Handler.redeemForm.decoder = .ok text ∧
    Blank.trim text = key.key.expose
  stored : ∃ stored ∈ before.productKeys.values, stored.productKey = key
  active : key.status = .active
  change : after = before.insertLauncherSession key.id session
  added : before.launcherSessions.get? session.id = none →
    after.launcherSessions.entries =
      before.launcherSessions.entries ++ [(session.id, ⟨key.id, session⟩)]

def Administered : Prop :=
  ∃ user, Access.LoggedIn (gateway.session? request) now user ∧ user.id ∈ before.admins

/-- An administrator had new keys issued for an edition. -/
structure Issue (edition : EditionId) (keys : List ProductKey) : Prop where
  method : request.method = "POST"
  path : ∃ piece, Spells piece edition ∧
    request.path = "/editions/".toList ++ piece ++ "/keys".toList
  asked : ∃ fields, request.queryFields ["num"] = .ok fields ∧
    (fields.lookup "num").bind Handler.readCount? = some keys.length
  bounds : 1 ≤ keys.length ∧ keys.length ≤ 1000
  administered : Administered gateway request now before
  known : (before.editions.get? edition).isSome = true
  active : ∀ key ∈ keys, key.status = .active
  change : after = before.insertProductKeys edition keys
  added : before.productKeys.Fresh (keys.map ProductKey.id) →
    after.productKeys.entries =
      before.productKeys.entries ++ keys.map fun key => (key.id, ⟨edition, key⟩)

structure Switch (status : KeyStatus) (edition : EditionId) (id : ProductKeyId)
    (stored : StoredKey) : Prop where
  method : request.method = "POST"
  path : ∃ editionPiece keyPiece, Spells editionPiece edition ∧ Spells keyPiece id ∧
    request.path = "/editions/".toList ++ editionPiece ++ "/keys/".toList ++ keyPiece ++
      '/' :: (Route.switchWord status).toList
  administered : Administered gateway request now before
  found : before.productKeys.get? id = some stored
  owned : stored.edition = edition
  change : after = {
    before with
    productKeys := before.productKeys.insert id {
      stored with productKey := { stored.productKey with status } } }

/-- An administrator or an owner of a game changed who may see it. -/
structure Exposure (id : GameId) (game : Game) (visibility : Visibility) : Prop where
  method : request.method = "PATCH"
  path : ∃ piece, Spells piece id ∧
    request.path = "/games/".toList ++ piece ++ "/visibility".toList
  asked : request.jsonBody Handler.visibilityForm.decoder = .ok visibility
  allowed : ∃ user, Access.LoggedIn (gateway.session? request) now user ∧
    (user.id ∈ before.admins ∨ before.gameRole id user.id = some .owner)
  found : before.games.get? id = some game
  change : after = {
    before with games := before.games.insert id { game with visibility } }

def Explains : Amendment → Prop
  | .redemption => ∃ key session, Redemption request before after key session
  | .issue => ∃ edition keys, Issue gateway request now before after edition keys
  | .switch => ∃ status edition id stored,
      Switch gateway request now before after status edition id stored
  | .exposure => ∃ id game visibility,
      Exposure gateway request now before after id game visibility

def ofPath (path : List Char) : Amendment :=
  match path.reverse.take 4 with
  | ['e', 'z', 'i', 'r'] => .redemption
  | ['s', 'y', 'e', 'k'] => .issue
  | ['y', 't', 'i', 'l'] => .exposure
  | _ => .switch

variable {gateway request now before after}

theorem Explains.kind {amendment : Amendment}
    (explained : Explains gateway request now before after amendment) :
    ofPath request.path = amendment := by
  cases amendment with
  | redemption =>
      obtain ⟨key, session, redemption⟩ := explained
      rw [redemption.path]
      decide
  | issue =>
      obtain ⟨edition, keys, issue⟩ := explained
      obtain ⟨piece, -, path⟩ := issue.path
      simp [path, ofPath]
  | switch =>
      obtain ⟨status, edition, id, stored, switch⟩ := explained
      obtain ⟨editionPiece, keyPiece, -, -, path⟩ := switch.path
      cases status
      · simp [path, ofPath, Route.switchWord]
      · simp [path, ofPath, Route.switchWord]
  | exposure =>
      obtain ⟨id, game, visibility, exposure⟩ := explained
      obtain ⟨piece, -, path⟩ := exposure.path
      simp [path, ofPath]

theorem Explains.unique {amendment : Amendment}
    (explained : Explains gateway request now before after amendment) :
    ∃! amendment, Explains gateway request now before after amendment :=
  ⟨amendment, explained, fun _ other => other.kind.symm.trans explained.kind⟩

end Amendment

def Response.Succeeds (response : Response) : Prop :=
  200 ≤ response.status ∧ response.status < 300

theorem Response.succeeds_json {status : Nat} (body : Json)
    (succeeds : 200 ≤ status ∧ status < 300 := by decide) :
    (Response.json status body).Succeeds := succeeds

namespace Gateway

open Job

/--
Work that serves a request touches nothing, or it succeeds with a change of the document that
one of the amendments explains.
-/
def Mediated (gateway : Gateway) (request : Request) (before : World)
    (ended : Except Failure Response × World) : Prop :=
  before.store.Untouched ended.2.store ∨
    ∃ response next amendment, ended.1 = .ok response ∧ response.Succeeds ∧
      ended.2.store = before.store.written next ∧
      Amendment.Explains gateway request before.clock before.store.live next amendment

variable {gateway : Gateway} {request : Request} {before : World} {endpoint : Endpoint}
  {encoded : List (String × List Char)}

theorem mediated_of_keeps {handler : Handler} (kept : handler.Keeps World.store) :
    gateway.Mediated request before (exec handler before) := by
  left
  rw [kept before]
  exact .refl _

theorem mediated_redeem
    (reached : Route.reached? request.path request.method = some (.redeem, encoded)) :
    gateway.Mediated request before (exec (Handler.redeem gateway request) before) := by
  rcases Handler.exec_redeem_cases gateway request before with
    ⟨text, key, session, redeemed, after, asked, ended, outcome, kept⟩ |
    ⟨failure, after, ended, untouched⟩
  · rw [ended]
    obtain ⟨method, path⟩ := Route.reached?_redeem reached
    obtain ⟨stored, found, rfl⟩ := Option.map_eq_some_iff.mp outcome.found
    obtain ⟨there, sameText⟩ := Table.search_eq_some found
    refine .inr ⟨_, before.store.live.insertLauncherSession stored.productKey.id session,
      .redemption, rfl, Response.succeeds_json _, ?_, stored.productKey, session, ?_⟩
    · rw [kept, outcome.after_eq]
    · exact {
        method, path
        asked := ⟨text, asked, (of_decide_eq_true sameText).symm⟩
        stored := ⟨stored, Table.mem_values_iff.mpr there, rfl⟩
        active := outcome.active
        change := rfl
        added := fun fresh => Table.entries_insert _ fresh }
  · rw [ended]
    exact .inl untouched

/-- A protected endpoint is served to those only to whom its scheme grants access. -/
theorem mediated_of_protected {scheme : Scheme} (visit : Visit)
    (protection : endpoint.scheme? = some scheme)
    (work : ∀ grant,
      Access.decide scheme before.repository (gateway.credentials visit) before.clock = .ok grant →
      gateway.Mediated request before
        (exec (handleGranted visit endpoint grant) (gateway.guarded visit before scheme))) :
    gateway.Mediated request before (exec (gateway.serve visit endpoint) before) := by
  cases decided : Grant.ofCheck (gateway.checked visit before scheme) with
  | error failure =>
      rw [exec_serve_of_refused gateway visit before protection decided]
      exact .inl (.refl _)
  | ok grant =>
      rw [exec_serve_of_granted gateway visit before protection decided]
      exact work grant (Access.check_granted_iff.mp (ofCheck_eq_ok_iff.mp decided))

theorem administered_of_admin_granted {visit : Visit} {grant : Grant}
    (granted : Access.decide .admin before.repository (gateway.credentials visit) before.clock =
      .ok grant) :
    Amendment.Administered gateway visit.request before.clock before.store.live := by
  obtain ⟨user, -, loggedIn, isAdmin⟩ := Access.of_admin_granted granted
  exact ⟨user, loggedIn, List.contains_iff_mem.mp isAdmin⟩

theorem mediated_generateKeys
    (reached : Route.reached? request.path request.method = some (.generateKeys, encoded)) :
    gateway.Mediated request before
      (exec (gateway.serve (visitOf request encoded) .generateKeys) before) := by
  apply mediated_of_protected (visitOf request encoded) rfl
  intro grant granted
  obtain ⟨method, piece, rfl, path⟩ := Route.reached?_generateKeys reached
  have administered := administered_of_admin_granted granted
  change gateway.Mediated request before (exec (Handler.generateKeys _) _)
  rcases Handler.exec_generateKeys_cases (visitOf request [("editionID", piece)])
      (gateway.guarded (visitOf request [("editionID", piece)]) before .admin) with
    ⟨edition, fields, count, keys, after, named, asked, counted, ended, issued⟩ |
    ⟨failure, after, ended, untouched⟩
  · rw [ended]
    obtain ⟨symbols, identifiers, rfl⟩ := issued.after_eq
    obtain ⟨_, taken, spells⟩ := spells_of_identifier named
    cases taken
    have bounds : 1 ≤ keys.length ∧ keys.length ≤ 1000 := by
      have bounded : count ≤ 1000 := issued.bounded
      have positive := issued.positive
      rw [issued.new.length]
      omega
    refine .inr ⟨_, before.store.live.insertProductKeys edition keys, .issue, rfl,
      Response.succeeds_json _, rfl, edition, keys, ?_⟩
    exact {
      method, bounds, administered
      path := ⟨piece, spells, path⟩
      asked := ⟨fields, asked, by rw [issued.new.length]; exact counted⟩
      known := issued.known
      active := issued.new.active
      change := rfl
      added := Launcher.entries_insertProductKeys }
  · rw [ended]
    exact .inl untouched

theorem mediated_switch (status : KeyStatus)
    (reached : Route.reached? request.path request.method =
      some (Route.switchEndpoint status, encoded)) :
    gateway.Mediated request before
      (exec (gateway.serve (visitOf request encoded) (Route.switchEndpoint status)) before) := by
  have protection : (Route.switchEndpoint status).scheme? = some .admin := by
    cases status <;> rfl
  apply mediated_of_protected (visitOf request encoded) protection
  intro grant granted
  obtain ⟨method, editionPiece, keyPiece, rfl, path⟩ := Route.reached?_switch reached
  have administered := administered_of_admin_granted granted
  have handled (visit : Visit) : handleGranted visit (Route.switchEndpoint status) grant =
      Handler.switchKey (Launcher.setStatus status) visit := by
    cases status <;> rfl
  rw [handled]
  rcases Handler.exec_switchKey_cases status
      (visitOf request [("editionID", editionPiece), ("productKeyID", keyPiece)])
      (gateway.guarded (visitOf request [("editionID", editionPiece), ("productKeyID", keyPiece)])
        before .admin) with
    ⟨edition, id, stored, key, after, editionNamed, keyNamed, ended, switched⟩ |
    ⟨failure, after, ended, untouched⟩
  · rw [ended]
    rcases switched.after_eq with ⟨-, rfl⟩ | ⟨-, -, rfl⟩
    · exact .inl (.refl _)
    · obtain ⟨_, taken, editionSpells⟩ := spells_of_identifier editionNamed
      cases taken
      obtain ⟨_, taken, keySpells⟩ := spells_of_identifier keyNamed
      cases taken
      refine .inr ⟨_, _, .switch, rfl, Response.succeeds_json _, rfl,
        status, edition, id, stored, ?_⟩
      exact {
        method, administered
        path := ⟨editionPiece, keyPiece, editionSpells, keySpells, path⟩
        found := switched.found
        owned := switched.owned
        change := by rw [switched.key_eq]; rfl }
  · rw [ended]
    exact .inl untouched

theorem mediated_updateVisibility
    (reached : Route.reached? request.path request.method = some (.updateVisibility, encoded)) :
    gateway.Mediated request before
      (exec (gateway.serve (visitOf request encoded) .updateVisibility) before) := by
  apply mediated_of_protected (visitOf request encoded) rfl
  intro grant granted
  obtain ⟨method, piece, rfl, path⟩ := Route.reached?_updateVisibility reached
  obtain ⟨user, game, -, loggedIn, guardNamed, allowed⟩ := Access.of_gameRole_granted granted
  change gateway.Mediated request before (exec (Handler.updateVisibility _) _)
  rcases Handler.exec_updateVisibility_cases (visitOf request [("gameID", piece)])
      (gateway.guarded (visitOf request [("gameID", piece)]) before .gameOwner) with
    ⟨id, visibility, found, named, asked, there, ended⟩ | ⟨failure, after, ended, untouched⟩
  · rw [ended]
    obtain ⟨_, taken, spells⟩ := spells_of_identifier named
    cases taken
    have sameGame : game = id :=
      Except.ok.inj ((identifier_of_pathId guardNamed).symm.trans named)
    subst sameGame
    have entitled : user.id ∈ before.store.live.admins ∨
        before.store.live.gameRole game user.id = some .owner := by
      rcases allowed with isAdmin | ⟨role, held, manages⟩
      · exact .inl (List.contains_iff_mem.mp isAdmin)
      · cases role with
        | owner => exact .inr held
        | maintainer => contradiction
    refine .inr ⟨_, _, .exposure, rfl, Response.succeeds_json _, rfl, game, found, visibility, ?_⟩
    exact {
      method, asked
      path := ⟨piece, spells, path⟩
      allowed := ⟨user, loggedIn, entitled⟩
      found := there
      change := rfl }
  · rw [ended]
    exact .inl untouched

theorem mediated_serve
    (reached : Route.reached? request.path request.method = some (endpoint, encoded)) :
    gateway.Mediated request before
      (exec (gateway.serve (visitOf request encoded) endpoint) before) := by
  cases writes : endpoint.writes with
  | false => exact mediated_of_keeps (gateway.keepsStore_serve _ writes)
  | true =>
      cases endpoint with
      | redeem =>
          rw [exec_serve_of_open gateway (visitOf request encoded) before rfl]
          exact mediated_redeem reached
      | generateKeys => exact mediated_generateKeys reached
      | activateKey => exact mediated_switch .active reached
      | revokeKey => exact mediated_switch .inactive reached
      | updateVisibility => exact mediated_updateVisibility reached
      | _ => contradiction

/--
Complete mediation: either the document is kept, in memory and on the disk, or the response
reports success, the store file holds the new document, and exactly one of the amendments
explains the change.
-/
theorem respond_mediated (gateway : Gateway) (request : Request) (before : World) :
    let (response, after) := gateway.respond request before
    (after.store.live = before.store.live ∧ after.store.disk.entry = before.store.disk.entry) ∨
      (response.Succeeds ∧
        after.store.disk.entry =
          .file ⟨Utf8.encode after.store.live.render, Disk.ownerOnly⟩ ∧
        ∃! amendment, Amendment.Explains gateway request before.clock before.store.live
          after.store.live amendment) := by
  cases reached : Route.reached? request.path request.method with
  | none =>
      rw [respond_of_answer gateway request before
        (run_answer_of_unreached gateway request before reached)]
      exact .inl ⟨rfl, rfl⟩
  | some place =>
      obtain ⟨endpoint, encoded⟩ := place
      have answered := (run_answer_of_reached gateway request before reached).trans
        (run_conclude before _)
      rw [respond_of_answer gateway request before answered]
      dsimp only
      have mediated : gateway.Mediated request before _ := mediated_serve reached
      rcases mediated with
        untouched | ⟨response, next, amendment, succeeded, success, written, explained⟩
      · exact .inl ⟨untouched.live, untouched.entry⟩
      · right
        rw [succeeded, written]
        refine ⟨?_, rfl, explained.unique⟩
        unfold Response.Succeeds
        rw [finalize_status]
        exact success

end Gateway

end GameCatalog
