import GameCatalog.Proofs.Access.Decision
import GameCatalog.Proofs.Job
import GameCatalog.Proofs.Web.Path
import GameCatalog.Web.Service

/-!
Serving a request, step by step: the request reaches an endpoint or is turned away, the
guard of the endpoint decides, the handler works, and its failure becomes a response.
-/

namespace GameCatalog

open Job

namespace Handler

@[simp]
theorem exec_expect {Value : Type} (read : Except Failure Value) (world : World) :
    exec (expect read) world = (read, world) := by
  cases read <;> rfl

theorem exec_expect_bind {Value Result : Type} (read : Except Failure Value)
    (next : Value → Job Failure Result) (world : World) :
    exec (expect read >>= next) world =
      match read with
      | .ok value => exec (next value) world
      | .error failure => (.error failure, world) := by
  rw [exec_bind, exec_expect]
  cases read <;> rfl

@[simp]
theorem exec_ask {Result : Type} (question : Repository → Except StoreError Result)
    (world : World) :
    exec (ask question) world = ((question world.repository).mapError .ofStore, world) := by
  simp [ask]

end Handler

namespace Gateway

variable (gateway : Gateway) (request : Request) (visit : Visit) (world : World)

def checked (scheme : Scheme) : Except CheckError Verdict :=
  Access.check scheme world.repository (gateway.credentials visit) world.clock

/-- The guard decides by the repository and the clock, and counts its decision. -/
@[simp]
theorem exec_guard (scheme : Scheme) :
    exec (gateway.guard scheme visit) world =
      (Grant.ofCheck (gateway.checked visit world scheme), {
        world with
        observations := world.observations ++
          [.check scheme (.ofCheck (gateway.checked visit world scheme))] }) := by
  simp only [guard, exec_get_bind]
  rw [exec_bind_of_ok (exec_observe _ _), Handler.exec_expect]
  rfl

theorem ofCheck_eq_ok_iff {check : Except CheckError Verdict} {grant : Grant} :
    Grant.ofCheck check = .ok grant ↔ check = .ok (.granted grant) := by
  unfold Grant.ofCheck
  split <;> simp_all

/-- The request as the handler of the endpoint that it reaches sees it. -/
def visitOf (encoded : List (String × List Char)) : Visit :=
  ⟨request, Route.decodeParameters? encoded⟩

def concluded : Except Failure Response → Response
  | .ok response => response
  | .error failure => failure.toResponse

theorem run_conclude (handler : Handler) :
    (conclude handler).run world = (concluded (exec handler world).1, (exec handler world).2) := by
  simp only [conclude, exec, bind, StateT.bind, StateT.run]
  rcases handler.run world with ⟨_ | _, _⟩
  · rfl
  · rfl

def turnedAway : Response :=
  match Route.find? request.path with
  | none => { status := 404 }
  | some (route, _) => { status := 405, allow := some route.allow }

theorem run_answer_of_reached {endpoint : Endpoint} {encoded : List (String × List Char)}
    (reached : Route.reached? request.path request.method = some (endpoint, encoded)) :
    (gateway.answer request).run world =
      (conclude (gateway.serve (visitOf request encoded) endpoint)).run world := by
  unfold answer
  unfold Route.reached? at reached
  cases found : Route.find? request.path with
  | none => simp [found] at reached
  | some fit =>
      obtain ⟨route, parameters⟩ := fit
      cases served : route.endpoint? request.method with
      | none => simp [found, served] at reached
      | some other =>
          simp only [found, served, Option.bind_eq_bind, Option.bind_some, Option.pure_def,
            Option.some.injEq, Prod.mk.injEq] at reached
          obtain ⟨rfl, rfl⟩ := reached
          simp only [served]
          rfl

theorem run_answer_of_unreached
    (unreached : Route.reached? request.path request.method = none) :
    (gateway.answer request).run world = (turnedAway request, world) := by
  unfold answer turnedAway
  unfold Route.reached? at unreached
  cases found : Route.find? request.path with
  | none => rfl
  | some fit =>
      obtain ⟨route, parameters⟩ := fit
      cases served : route.endpoint? request.method with
      | none => simp only [served]; rfl
      | some other => simp [found, served] at unreached

@[simp]
theorem finalize_status (response : Response) :
    (finalize request response).status = response.status := by
  unfold finalize
  split <;> rfl

/-- The response to a request, and the world after it. -/
def respond : Response × World := (gateway.handle request).run world

/-- A request is answered, and then it is counted. -/
theorem respond_of_answer {response : Response} {after : World}
    (answered : (gateway.answer request).run world = (response, after)) :
    gateway.respond request world = (finalize request response, {
      after with
      observations := after.observations ++ [.request request.method response.status] }) := by
  unfold respond handle
  rw [StateT.run_bind, answered]
  rfl

section Serve

variable {scheme : Scheme} {endpoint : Endpoint} {grant : Grant}

def guarded (scheme : Scheme) : World := {
  world with
  observations := world.observations ++
    [.check scheme (.ofCheck (gateway.checked visit world scheme))] }

theorem exec_serve_of_open (unprotected : endpoint.scheme? = none) :
    exec (gateway.serve visit endpoint) world = exec (gateway.handleOpen visit endpoint) world := by
  unfold serve
  rw [unprotected]

theorem exec_serve_of_granted (protection : endpoint.scheme? = some scheme)
    (granted : Grant.ofCheck (gateway.checked visit world scheme) = .ok grant) :
    exec (gateway.serve visit endpoint) world =
      exec (handleGranted visit endpoint grant) (gateway.guarded visit world scheme) := by
  unfold serve
  rw [protection]
  apply exec_bind_of_ok
  rw [exec_guard, granted]
  rfl

theorem exec_serve_of_refused {failure : Failure} (protection : endpoint.scheme? = some scheme)
    (refused : Grant.ofCheck (gateway.checked visit world scheme) = .error failure) :
    exec (gateway.serve visit endpoint) world =
      (.error failure, gateway.guarded visit world scheme) := by
  unfold serve
  rw [protection]
  apply exec_bind_of_error
  rw [exec_guard, refused]
  rfl

end Serve

end Gateway

end GameCatalog
