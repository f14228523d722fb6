import GameCatalog.Proofs.Access.Anonymous
import GameCatalog.Proofs.Circumstances
import GameCatalog.Proofs.Launcher.Outcome
import GameCatalog.Proofs.Web.Open
import GameCatalog.Proofs.Web.Parameter

/-!
Noninterference.  Two worlds that look alike to those who are not logged in answer every
sequence of their requests with the same responses: what only members and launchers may see has
no influence on any of them.
-/

namespace GameCatalog

open Job

section Protected

variable {first second : World} {id : GameId} {game : Game} {visit : Visit}

namespace Handler

theorem exec_loadGame {world : World} (works : world.faults .getGame = none)
    (found : world.store.live.games.get? id = some game) :
    exec (loadGame id) world = (.ok game, world) := by
  have asked : exec (ask (·.getGame id)) world = (.ok (some game), world) := by
    rw [exec_ask]
    simp [Repository.getGame, Repository.answer, World.repository, works, found, Except.mapError]
  unfold loadGame
  rw [exec_bind_of_ok asked]
  rfl

theorem exec_game {world : World} (named : visit.parameters.identifier "gameID" = .ok id)
    (works : world.faults .getGame = none)
    (found : world.store.live.games.get? id = some game) :
    exec (Handler.game visit) world = (.ok (.json 200 game.view), world) := by
  unfold Handler.game
  rw [exec_expect_bind, named]
  exact exec_bind_of_ok (exec_loadGame works found)

theorem exec_gameFiles {world : World} (named : visit.parameters.identifier "gameID" = .ok id)
    (works : world.faults .getGame = none)
    (found : world.store.live.games.get? id = some game) :
    exec (gameFiles visit) world =
      (.ok (.json 200 (.array (game.files.map GameFile.view))), world) := by
  unfold gameFiles
  rw [exec_expect_bind, named]
  exact exec_bind_of_ok (exec_loadGame works found)

end Handler

namespace Gateway

/-- The request shows neither an identity nor a launcher session that is not over. -/
structure Anonymous (gateway : Gateway) (request : Request) (world : World) : Prop where
  notMetrics : request.path ≠ "/metrics".toList
  loggedOut : Access.LoggedOut (gateway.session? request) world.clock
  unauthorized : Access.Unauthorized world.store.live (request.header? "authorization")
    world.clock

variable (gateway : Gateway) {request : Request} {endpoint : Endpoint} {scheme : Scheme}

theorem guarded_alike (visit : Visit) (scheme : Scheme) (alike : first.Alike second) :
    (gateway.guarded visit first scheme).Alike (gateway.guarded visit second scheme) :=
  { alike with }

def failureOf : Access.Stop → Failure
  | .denied denial => .api (.ofDenial denial)
  | .failed error => .api (.ofCheck error)

theorem ofCheck_of_stop {world : World} {stop : Access.Stop}
    (stopped : Access.decide scheme world.repository (gateway.credentials visit) world.clock =
      .error stop) :
    Grant.ofCheck (gateway.checked visit world scheme) = .error (failureOf stop) := by
  unfold checked Access.check
  rw [stopped]
  cases stop <;> rfl

theorem ofCheck_of_grant {world : World} {grant : Grant}
    (granted : Access.decide scheme world.repository (gateway.credentials visit) world.clock =
      .ok grant) :
    Grant.ofCheck (gateway.checked visit world scheme) = .ok grant := by
  unfold checked Access.check
  rw [granted]
  rfl

theorem exec_handleGranted_of_public (publicScheme : scheme = .gameInfo ∨ scheme = .gameFiles)
    (protection : endpoint.scheme? = some scheme)
    (named : visit.parameters.identifier "gameID" = .ok id) :
    ∃ response, ∀ world : World, world.faults .getGame = none →
      world.store.live.games.get? id = some game →
        exec (handleGranted visit endpoint .anonymous) world = (.ok response, world) := by
  rcases publicScheme with rfl | rfl
  · have served : endpoint = .game := by
      cases endpoint <;> first | rfl | contradiction
    subst served
    exact ⟨_, fun world works found => Handler.exec_game named works found⟩
  · have served : endpoint = .gameFiles := by
      cases endpoint <;> first | rfl | contradiction
    subst served
    exact ⟨_, fun world works found => Handler.exec_gameFiles named works found⟩

theorem serve_protected_alike (alike : first.Alike second)
    (protection : endpoint.scheme? = some scheme)
    (loggedOut : Access.LoggedOut (gateway.session? visit.request) first.clock)
    (unauthorized : Access.Unauthorized first.store.live
      (visit.request.header? "authorization") first.clock) :
    (exec (gateway.serve visit endpoint) first).1 =
        (exec (gateway.serve visit endpoint) second).1 ∧
      (exec (gateway.serve visit endpoint) first).2.Alike
        (exec (gateway.serve visit endpoint) second).2 := by
  have alikeGuarded := gateway.guarded_alike visit scheme alike
  have decided := @Access.decide_alike first second (gateway.credentials visit) first.clock alike
    scheme loggedOut unauthorized
  rw [alike.clock] at decided
  rcases decided with ⟨stop, firstStopped, secondStopped⟩ |
    ⟨publicScheme, id, game, named, works, found, isPublic, firstGranted, secondGranted⟩
  · rw [← alike.clock] at firstStopped
    rw [exec_serve_of_refused gateway visit first protection
        (gateway.ofCheck_of_stop firstStopped),
      exec_serve_of_refused gateway visit second protection
        (gateway.ofCheck_of_stop secondStopped)]
    exact ⟨rfl, alikeGuarded⟩
  · rw [← alike.clock] at firstGranted
    rw [exec_serve_of_granted gateway visit first protection
        (gateway.ofCheck_of_grant firstGranted),
      exec_serve_of_granted gateway visit second protection
        (gateway.ofCheck_of_grant secondGranted)]
    obtain ⟨response, handled⟩ := @exec_handleGranted_of_public _ game visit _ _ publicScheme
      protection (identifier_of_pathId named)
    have there := alike.store.live.game_of_public found isPublic
    have worksThere : second.faults .getGame = none := by rw [← alike.faults, works]
    rw [handled (gateway.guarded visit first scheme) works found,
      handled (gateway.guarded visit second scheme) worksThere there]
    exact ⟨rfl, alikeGuarded⟩

end Gateway

end Protected

namespace Gateway

variable (gateway : Gateway) {first second : World} {request : Request}

theorem respond_alike (alike : first.Alike second)
    (anonymous : gateway.Anonymous request first) :
    (gateway.respond request first).1 = (gateway.respond request second).1 ∧
      (gateway.respond request first).2.Alike (gateway.respond request second).2 := by
  apply respond_of_served World.likeness_alike gateway alike
  intro endpoint encoded reached
  cases protection : endpoint.scheme? with
  | none =>
      have noMetrics : endpoint ≠ .metrics := by
        rintro rfl
        exact anonymous.notMetrics (Route.reached?_metrics reached)
      rw [exec_serve_of_open gateway _ first protection,
        exec_serve_of_open gateway _ second protection]
      exact respects_handleOpen World.likeness_alike gateway _ noMetrics first second alike
  | some scheme =>
      exact gateway.serve_protected_alike alike protection anonymous.loggedOut
        anonymous.unauthorized

end Gateway

section Run

theorem World.Alike.under {first second : World} (alike : first.Alike second)
    (circumstances : Circumstances) :
    (first.under circumstances).Alike (second.under circumstances) where
  store := ⟨alike.store.live, alike.store.disk.reachable, alike.store.disk.directory, rfl⟩
  faults := rfl
  clock := rfl
  uptime := rfl
  symbols := alike.symbols
  identifiers := alike.identifiers
  provider := rfl

namespace Gateway

variable (gateway : Gateway)

def respondAll : World → List (Circumstances × Request) → List Response
  | _, [] => []
  | world, (circumstances, request) :: rest =>
      (gateway.respond request (world.under circumstances)).1 ::
        respondAll (gateway.respond request (world.under circumstances)).2 rest

/-- Each request of the sequence is anonymous when its turn comes. -/
def AnonymousRun : World → List (Circumstances × Request) → Prop
  | _, [] => True
  | world, (circumstances, request) :: rest =>
      gateway.Anonymous request (world.under circumstances) ∧
        AnonymousRun (gateway.respond request (world.under circumstances)).2 rest

/-- Noninterference: alike worlds answer a sequence of anonymous requests identically. -/
theorem respondAll_alike {first second : World} (alike : first.Alike second)
    (requests : List (Circumstances × Request))
    (anonymous : gateway.AnonymousRun first requests) :
    gateway.respondAll first requests = gateway.respondAll second requests := by
  induction requests generalizing first second with
  | nil => rfl
  | cons visited rest inductionHypothesis =>
      obtain ⟨circumstances, request⟩ := visited
      obtain ⟨anonymousNow, anonymousLater⟩ := anonymous
      obtain ⟨sameResponse, alikeAfter⟩ :=
        gateway.respond_alike (alike.under circumstances) anonymousNow
      have sameRest := inductionHypothesis alikeAfter anonymousLater
      simp only [respondAll]
      rw [sameResponse, sameRest]

theorem session?_of_no_headers {request : Request} (bare : request.headers = []) :
    gateway.session? request = none := by
  simp [session?, SessionCookie.read?, SessionCookie.value?, Cookie.ofRequest, Request.headers?,
    bare]

theorem anonymous_of_no_headers {request : Request} (world : World)
    (bare : request.headers = []) (notMetrics : request.path ≠ "/metrics".toList) :
    gateway.Anonymous request world where
  notMetrics := notMetrics
  loggedOut := by
    rw [gateway.session?_of_no_headers bare]
    exact fun client identity shown => nomatch shown
  unauthorized := by
    simp [Access.Unauthorized, Request.header?, bare]

theorem anonymousRun_of_no_headers (world : World) (requests : List (Circumstances × Request))
    (bare : ∀ visited ∈ requests, visited.2.headers = [])
    (noMetrics : ∀ visited ∈ requests, visited.2.path ≠ "/metrics".toList) :
    gateway.AnonymousRun world requests := by
  induction requests generalizing world with
  | nil => trivial
  | cons visited rest inductionHypothesis =>
      refine ⟨gateway.anonymous_of_no_headers _ (bare visited (by simp))
        (noMetrics visited (by simp)), ?_⟩
      exact inductionHypothesis _ (fun other later => bare other (by simp [later]))
        fun other later => noMetrics other (by simp [later])

def displaying (name : String) (visibility : Visibility) : World where
  store := {
    live := { games := Table.empty.insert ⟨7⟩ ⟨⟨7⟩, name, "", visibility, [], 0⟩ }
    disk := {} }
  clock := 0
  symbols := ⟨[], 0⟩
  identifiers := ⟨[], 0⟩
  provider := ⟨fun _ _ => .error .invalidSession, fun _ => .error .invalidSession,
    fun _ => .error .invalidSession⟩

theorem displaying_alike {first second : String} {firstVisibility secondVisibility : Visibility}
    (firstHidden : firstVisibility ≠ .public) (secondHidden : secondVisibility ≠ .public) :
    (displaying first firstVisibility).Alike (displaying second secondVisibility) where
  store := {
    live := {
      productKeys := rfl
      launcherSessions := rfl
      editions := fun _ => rfl
      games := fun id => by
        simp only [displaying, Table.get?_insert, Table.get?_empty]
        split <;> rfl
      published := fun id => by
        simp only [displaying, Table.get?_insert, Table.get?_empty]
        split
        · rw [Option.filter_some_neg (by simpa using firstHidden),
            Option.filter_some_neg (by simpa using secondHidden)]
        · rfl }
    disk := ⟨rfl, Iff.rfl, rfl⟩ }
  faults := rfl
  clock := rfl
  uptime := rfl
  symbols := rfl
  identifiers := rfl
  provider := rfl

/-- Whoever asks for a game and for a health report learns nothing about the game. -/
theorem respondAll_alike_displaying :
    let gateway : Gateway := ⟨⟨"https://idp.example/api/v3", "gateway"⟩, ⟨"session", [], 60, true⟩, 60⟩
    let first := displaying "Atlas" .limited
    let second := displaying "Borealis" .private
    let circumstances : Circumstances := ⟨0, 0, Faults.none, first.provider, none⟩
    let requests : List (Circumstances × Request) :=
      [(circumstances,
          { method := "GET", path := "/games/00000000-0000-0000-0000-000000000007".toList }),
        (circumstances, { method := "GET", path := "/health".toList })]
    first.Alike second ∧ gateway.AnonymousRun first requests ∧
      gateway.respondAll first requests = gateway.respondAll second requests := by
  intro gateway first second circumstances requests
  have alike : first.Alike second := displaying_alike (by decide) (by decide)
  have anonymous : gateway.AnonymousRun first requests := by
    apply gateway.anonymousRun_of_no_headers
    · simp [requests]
    · simp only [requests, List.forall_mem_cons]
      decide
  exact ⟨alike, anonymous, gateway.respondAll_alike alike requests anonymous⟩

end Gateway

end Run

end GameCatalog
