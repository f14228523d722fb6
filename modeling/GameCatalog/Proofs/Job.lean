import GameCatalog.Proofs.Store.Commit
import GameCatalog.Service.World

/-!
Running jobs.  `exec` runs a job in a world and returns how it ended together with the
world after it; there is one equation for each way of putting jobs together and for each
thing that a job can do.  A job keeps a view of the world when the view shows the same before and
after it: a job that only looks at the store keeps `World.store`.
-/

namespace GameCatalog.Job

variable {Error Other Result Next : Type}

def exec (job : Job Error Result) (world : World) : Except Error Result × World :=
  (ExceptT.run job).run world

@[simp]
theorem exec_pure (result : Result) (world : World) :
    exec (pure result : Job Error Result) world = (.ok result, world) := rfl

@[simp]
theorem exec_throw (error : Error) (world : World) :
    exec (throw error : Job Error Result) world = (.error error, world) := rfl

@[simp]
theorem exec_get (world : World) : exec (get : Job Error World) world = (.ok world, world) := rfl

theorem exec_bind (job : Job Error Result) (next : Result → Job Error Next) (world : World) :
    exec (job >>= next) world =
      match exec job world with
      | (.ok result, after) => exec (next result) after
      | (.error error, after) => (.error error, after) := by
  simp only [exec, bind, ExceptT.bind, ExceptT.mk, ExceptT.run, StateT.bind, StateT.run,
    ExceptT.bindCont]
  rcases job world with ⟨_ | _, _⟩ <;> rfl

@[simp]
theorem exec_get_bind (next : World → Job Error Next) (world : World) :
    exec (get >>= next) world = exec (next world) world := rfl

theorem exec_bind_of_ok {job : Job Error Result} {next : Result → Job Error Next}
    {world after : World} {result : Result} (ended : exec job world = (.ok result, after)) :
    exec (job >>= next) world = exec (next result) after := by
  rw [exec_bind, ended]

theorem exec_bind_of_error {job : Job Error Result} {next : Result → Job Error Next}
    {world after : World} {error : Error} (ended : exec job world = (.error error, after)) :
    exec (job >>= next) world = (.error error, after) := by
  rw [exec_bind, ended]

@[simp]
theorem exec_ask (question : Repository → Except Error Result) (world : World) :
    exec (ask question) world = (question world.repository, world) := by
  simp only [ask, exec_get_bind]
  split <;> simp_all

/-- An operation of the repository fails at once, or does its work on the store. -/
@[simp]
theorem exec_mutate (operation : Operation) (mutation : Store → Store.Outcome Result)
    (world : World) :
    exec (mutate operation mutation) world =
      match world.faults operation with
      | some error => (.error error, world)
      | none => ((mutation world.store).1, { world with store := (mutation world.store).2 }) := by
  simp only [mutate, exec_get_bind]
  cases world.faults operation with
  | some error => rfl
  | none => rcases mutation world.store with ⟨_ | _, _⟩ <;> rfl

@[simp]
theorem exec_mapError (convert : Error → Other) (job : Job Error Result) (world : World) :
    exec (job.mapError convert) world =
      ((exec job world).1.mapError convert, (exec job world).2) := rfl

@[simp]
theorem exec_attempt (job : Job Error Result) (world : World) :
    exec (job.attempt : Job Other _) world = (.ok (exec job world).1, (exec job world).2) := rfl

theorem exec_attempt_of_ended {job : Job Error Result} {world after : World}
    {outcome : Except Error Result} (ended : exec job world = (outcome, after)) :
    exec (job.attempt : Job Other _) world = (.ok outcome, after) := by
  rw [exec_attempt, ended]

@[simp]
theorem exec_call (record : ProviderCall) (answer : Provider → Except LoginError Result)
    (world : World) :
    exec (call record answer) world =
      (answer world.provider, { world with calls := world.calls ++ [record] }) := by
  cases answered : answer world.provider <;>
    simp [call, exec_bind, answered, show exec (modify _) world = (.ok ⟨⟩, _) from rfl]

@[simp]
theorem exec_observe (observation : Observation) (world : World) :
    exec (observe observation : Job Error Unit) world =
      (.ok (), { world with observations := world.observations ++ [observation] }) := rfl

@[simp]
theorem exec_drawSymbols (draw : Stream → Result × Stream) (world : World) :
    exec (drawSymbols draw : Job Error Result) world =
      (.ok (draw world.symbols).1, { world with symbols := (draw world.symbols).2 }) := rfl

@[simp]
theorem exec_drawIdentifier {entity : Entity} (world : World) :
    exec (drawIdentifier : Job Error (Id entity)) world =
      (.ok world.identifiers.identifier.1,
        { world with identifiers := (@Stream.identifier entity world.identifiers).2 }) := rfl

section Commit

variable {operation : Operation} {mutation : Store → Store.Outcome Result}
  {change : Store.Change Result}

/-- A change of the document that the repository carries out. -/
theorem exec_commit_of_accepts (commits : ∀ store, mutation store = store.commit change)
    (convert : StoreError → Error) (world : World) {result : Result} {next : Document}
    (works : world.faults operation = none)
    (changed : change world.store.live = .ok (result, next))
    (accepts : world.store.disk.refusal? = none) :
    exec ((mutate operation mutation).mapError convert) world =
      (.ok result, { world with store := world.store.written next }) := by
  simp only [exec_mapError, exec_mutate, works, commits,
    Store.commit_of_accepts changed accepts, Except.mapError]

def Denies (world : World) (operation : Operation) (error : StoreError) : Prop :=
  world.faults operation = some error ∨ world.faults operation = none ∧
    ∃ refusal, world.store.disk.refusal? = some refusal ∧ error = .io refusal.describe

/-- Either nothing stands in the way of a write, or there is an error with which it is denied. -/
theorem works_or_denies (world : World) (operation : Operation) :
    (world.faults operation = none ∧ world.store.disk.refusal? = none) ∨
      ∃ error, Denies world operation error := by
  cases failing : world.faults operation with
  | some error => exact .inr ⟨error, .inl failing⟩
  | none =>
      cases refused : world.store.disk.refusal? with
      | none => exact .inl ⟨rfl, rfl⟩
      | some refusal => exact .inr ⟨_, .inr ⟨failing, refusal, refused, rfl⟩⟩

/-- A change of the document that is denied fails, and touches nothing. -/
theorem exec_commit_of_denies (commits : ∀ store, mutation store = store.commit change)
    (convert : StoreError → Error) {world : World} {error : StoreError} {result : Result}
    {next : Document} (denies : Denies world operation error)
    (changed : change world.store.live = .ok (result, next)) :
    ∃ store, exec ((mutate operation mutation).mapError convert) world =
      (.error (convert error), { world with store }) ∧ world.store.Untouched store := by
  rcases denies with failing | ⟨works, refusal, refuses, rfl⟩
  · exact ⟨world.store, by simp [failing, Except.mapError], .refl _⟩
  · obtain ⟨store, committed, untouched⟩ := Store.commit_of_refuses changed refuses
    exact ⟨store, by simp [works, commits, committed, Except.mapError], untouched⟩

/-- A change of the document is carried out, or fails and touches nothing. -/
theorem exec_commit_cases (commits : ∀ store, mutation store = store.commit change)
    (operation : Operation) (convert : StoreError → Error) (world : World) :
    (∃ result next, world.faults operation = none ∧
      change world.store.live = .ok (result, next) ∧ world.store.disk.refusal? = none ∧
      exec ((mutate operation mutation).mapError convert) world =
        (.ok result, { world with store := world.store.written next })) ∨
    ∃ error store, exec ((mutate operation mutation).mapError convert) world =
      (.error (convert error), { world with store }) ∧ world.store.Untouched store := by
  cases failing : world.faults operation with
  | some error =>
      exact .inr ⟨error, world.store, by simp [failing, Except.mapError], .refl _⟩
  | none =>
      rcases Store.commit_cases world.store change with
        ⟨result, next, changed, accepts, -⟩ | ⟨error, store, committed, untouched⟩
      · exact .inl ⟨result, next, rfl, changed, accepts,
          exec_commit_of_accepts commits convert world failing changed accepts⟩
      · exact .inr ⟨error, store,
          by simp [failing, commits, committed, Except.mapError], untouched⟩

end Commit

section Keeps

variable {View : Type} {view : World → View}

/-- Whatever the world is, the view shows the same before and after the job. -/
def Keeps (view : World → View) (job : Job Error Result) : Prop :=
  ∀ world, view (exec job world).2 = view world

namespace Keeps

theorem pure (result : Result) : Keeps view (Pure.pure result : Job Error Result) :=
  fun _ => rfl

theorem throw (error : Error) : Keeps view (MonadExcept.throw error : Job Error Result) :=
  fun _ => rfl

theorem throw_bind (error : Error) (next : Result → Job Error Next) :
    Keeps view (MonadExcept.throw error >>= next) :=
  fun _ => rfl

theorem bind {job : Job Error Result} {next : Result → Job Error Next} (first : Keeps view job)
    (second : ∀ result, Keeps view (next result)) : Keeps view (job >>= next) := by
  intro world
  have kept := first world
  rcases ended : exec job world with ⟨_ | result, after⟩ <;> rw [ended] at kept
  · rw [exec_bind_of_error ended]
    exact kept
  · rw [exec_bind_of_ok ended]
    exact (second result after).trans kept

theorem get_bind {next : World → Job Error Next} (keeps : ∀ world, Keeps view (next world)) :
    Keeps view (MonadState.get >>= next) :=
  fun world => keeps world world

theorem ask (question : Repository → Except Error Result) : Keeps view (Job.ask question) := by
  intro world
  rw [exec_ask]

theorem mapError (convert : Error → Other) {job : Job Error Result} (keeps : Keeps view job) :
    Keeps view (job.mapError convert) := by
  intro world
  rw [exec_mapError]
  exact keeps world

theorem attempt {job : Job Error Result} (keeps : Keeps view job) :
    Keeps view (job.attempt : Job Other _) :=
  fun world => keeps world

theorem mutate (hidden : ∀ world store, view { world with store } = view world)
    (operation : Operation) (mutation : Store → Store.Outcome Result) :
    Keeps view (Job.mutate operation mutation) := by
  intro world
  rw [exec_mutate]
  cases world.faults operation with
  | some error => rfl
  | none => exact hidden _ _

theorem call (hidden : ∀ world calls, view { world with calls } = view world)
    (record : ProviderCall) (answer : Provider → Except LoginError Result) :
    Keeps view (Job.call record answer) := by
  intro world
  rw [exec_call]
  exact hidden _ _

theorem observe (hidden : ∀ world observations, view { world with observations } = view world)
    (observation : Observation) : Keeps view (Job.observe observation : Job Error Unit) :=
  fun _ => hidden _ _

theorem drawSymbols (hidden : ∀ world symbols, view { world with symbols } = view world)
    (draw : Stream → Result × Stream) : Keeps view (Job.drawSymbols draw : Job Error Result) :=
  fun _ => hidden _ _

theorem drawIdentifier (hidden : ∀ world identifiers, view { world with identifiers } = view world)
    {entity : Entity} : Keeps view (Job.drawIdentifier : Job Error (Id entity)) :=
  fun _ => hidden _ _

end Keeps

end Keeps

end GameCatalog.Job
