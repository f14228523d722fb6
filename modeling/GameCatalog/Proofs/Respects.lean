import GameCatalog.Proofs.Job

/-!
Jobs in worlds that are alike.  A job respects a likeness of worlds when it ends alike in worlds
that are alike, and leaves alike worlds behind.  Looking at what is alike respects the likeness,
and so does drawing, asking the identity provider and counting if the likeness allows for it.
-/

namespace GameCatalog

structure Likeness (alike : World → World → Prop) : Prop where
  faults : ∀ {first second}, alike first second → first.faults = second.faults
  clock : ∀ {first second}, alike first second → first.clock = second.clock
  uptime : ∀ {first second}, alike first second → first.uptime = second.uptime
  symbols : ∀ {first second}, alike first second → first.symbols = second.symbols
  identifiers : ∀ {first second}, alike first second → first.identifiers = second.identifiers
  provider : ∀ {first second}, alike first second → first.provider = second.provider
  withSymbols : ∀ {first second}, alike first second →
    ∀ symbols, alike { first with symbols } { second with symbols }
  withIdentifiers : ∀ {first second}, alike first second →
    ∀ identifiers, alike { first with identifiers } { second with identifiers }
  recorded : ∀ {first second}, alike first second →
    ∀ firstCalls firstObservations secondCalls secondObservations,
      alike { first with calls := firstCalls, observations := firstObservations }
        { second with calls := secondCalls, observations := secondObservations }
  findProductKey : ∀ {first second}, alike first second →
    ∀ text, first.repository.findProductKey text = second.repository.findProductKey text
  saveLauncherSession : ∀ {first second}, alike first second → ∀ key session,
    (first.store.saveLauncherSession key session).1 =
        (second.store.saveLauncherSession key session).1 ∧
      alike { first with store := (first.store.saveLauncherSession key session).2 }
        { second with store := (second.store.saveLauncherSession key session).2 }

namespace Job

variable {Error Other Result Next : Type} {alike : World → World → Prop}

/-- The job ends alike in worlds that are alike, and leaves such worlds behind. -/
def Respects (alike : World → World → Prop) (job : Job Error Result) : Prop :=
  ∀ first second : World, alike first second →
    (exec job first).1 = (exec job second).1 ∧ alike (exec job first).2 (exec job second).2

namespace Respects

theorem pure (result : Result) : Respects alike (Pure.pure result : Job Error Result) :=
  fun _ _ same => ⟨rfl, same⟩

theorem throw (error : Error) : Respects alike (MonadExcept.throw error : Job Error Result) :=
  fun _ _ same => ⟨rfl, same⟩

theorem throw_bind (error : Error) (next : Result → Job Error Next) :
    Respects alike (MonadExcept.throw error >>= next) :=
  fun _ _ same => ⟨rfl, same⟩

theorem bind {job : Job Error Result} {next : Result → Job Error Next}
    (first : Respects alike job) (second : ∀ result, Respects alike (next result)) :
    Respects alike (job >>= next) := by
  intro firstWorld secondWorld same
  obtain ⟨sameEnding, alikeAfter⟩ := first firstWorld secondWorld same
  rw [exec_bind, exec_bind]
  rcases firstEnded : exec job firstWorld with ⟨firstOutcome, firstAfter⟩
  rcases secondEnded : exec job secondWorld with ⟨secondOutcome, secondAfter⟩
  rw [firstEnded, secondEnded] at sameEnding alikeAfter
  cases sameEnding
  cases firstOutcome with
  | error error => exact ⟨rfl, alikeAfter⟩
  | ok result => exact second result firstAfter secondAfter alikeAfter

/-- A job that looks at the part of the world that is alike. -/
theorem get_bind {next : World → Job Error Next}
    (same : ∀ first second, alike first second → next first = next second)
    (respects : ∀ world, Respects alike (next world)) :
    Respects alike (MonadState.get >>= next) := by
  intro first second areAlike
  rw [exec_get_bind, exec_get_bind, same first second areAlike]
  exact respects second first second areAlike

theorem ask {question : Repository → Except Error Result}
    (same : ∀ first second, alike first second →
      question first.repository = question second.repository) :
    Respects alike (Job.ask question) := by
  intro first second areAlike
  rw [exec_ask, exec_ask, same first second areAlike]
  exact ⟨rfl, areAlike⟩

theorem mapError (convert : Error → Other) {job : Job Error Result}
    (respects : Respects alike job) : Respects alike (job.mapError convert) := by
  intro first second areAlike
  obtain ⟨sameEnding, alikeAfter⟩ := respects first second areAlike
  rw [exec_mapError, exec_mapError, sameEnding]
  exact ⟨rfl, alikeAfter⟩

theorem attempt {job : Job Error Result} (respects : Respects alike job) :
    Respects alike (job.attempt : Job Other _) := by
  intro first second areAlike
  obtain ⟨sameEnding, alikeAfter⟩ := respects first second areAlike
  rw [exec_attempt, exec_attempt, sameEnding]
  exact ⟨rfl, alikeAfter⟩

variable (likeness : Likeness alike)
include likeness

theorem mutate (operation : Operation) {mutation : Store → Store.Outcome Result}
    (same : ∀ first second, alike first second →
      (mutation first.store).1 = (mutation second.store).1 ∧
        alike { first with store := (mutation first.store).2 }
          { second with store := (mutation second.store).2 }) :
    Respects alike (Job.mutate operation mutation) := by
  intro first second areAlike
  have sameFaults := congrFun (likeness.faults areAlike) operation
  rw [exec_mutate, exec_mutate, sameFaults]
  cases failing : second.faults operation with
  | some error => exact ⟨rfl, areAlike⟩
  | none => exact same first second areAlike

theorem observe (observation : Observation) :
    Respects alike (Job.observe observation : Job Error Unit) :=
  fun _ _ areAlike => ⟨rfl, likeness.recorded areAlike _ _ _ _⟩

theorem call (record : ProviderCall) (answer : Provider → Except LoginError Result) :
    Respects alike (Job.call record answer) := by
  intro first second areAlike
  rw [exec_call, exec_call]
  exact ⟨congrArg answer (likeness.provider areAlike), likeness.recorded areAlike _ _ _ _⟩

theorem drawSymbols (draw : Stream → Result × Stream) :
    Respects alike (Job.drawSymbols draw : Job Error Result) := by
  intro first second areAlike
  have same := congrArg draw (likeness.symbols areAlike)
  rw [exec_drawSymbols, exec_drawSymbols, same]
  exact ⟨rfl, likeness.withSymbols areAlike _⟩

theorem drawIdentifier {entity : Entity} :
    Respects alike (Job.drawIdentifier : Job Error (Id entity)) := by
  intro first second areAlike
  have same := congrArg (@Stream.identifier entity) (likeness.identifiers areAlike)
  rw [exec_drawIdentifier, exec_drawIdentifier, same]
  exact ⟨rfl, likeness.withIdentifiers areAlike _⟩

end Respects

end Job

end GameCatalog
