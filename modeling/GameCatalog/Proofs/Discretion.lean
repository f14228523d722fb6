import GameCatalog.Proofs.Access.Faults
import GameCatalog.Proofs.Circumstances
import GameCatalog.Web.Rejection

/-!
Failures that clients are not told about.  A failure is internal if it is neither the client's
doing nor an answer about what is stored.  One world impairs another one if it is the same but for
internal failures in the place of some answers; and a job is discreet if all that an impaired world
does to it is to end it with an internal failure, whose text leaves no trace behind.
-/

namespace GameCatalog

def StoreError.Internal (error : StoreError) : Prop :=
  ∀ what, error ≠ .notFound what

def LauncherError.Internal (error : LauncherError) : Prop :=
  ∃ reason, error = .store reason

def LoginError.Internal (error : LoginError) : Prop :=
  error.isClientError = false

def Failure.Internal (failure : Failure) : Prop :=
  ∃ detail, failure = .api (.internal detail)

def FailsBy {Error Value : Type} (internal : Error → Prop) (outcome : Except Error Value) :
    Prop :=
  ∃ error, outcome = .error error ∧ internal error

def Impairs {Error Value : Type} (internal : Error → Prop) (first second : Except Error Value) :
    Prop :=
  first = second ∨ FailsBy internal first

namespace Impairs

variable {Error Value Next : Type} {internal : Error → Prop} {first second : Except Error Value}

theorem refl (outcome : Except Error Value) : Impairs internal outcome outcome := .inl rfl

theorem bind {firstNext secondNext : Value → Except Error Next}
    (impairs : Impairs internal first second)
    (rest : ∀ value, Impairs internal (firstNext value) (secondNext value)) :
    Impairs internal (first >>= firstNext) (second >>= secondNext) := by
  rcases impairs with rfl | ⟨error, rfl, fails⟩
  · cases first with
    | error error => exact .refl _
    | ok value => exact rest value
  · exact .inr ⟨error, rfl, fails⟩

/-- Of two outcomes that impair each other, the second one fails if the first one does. -/
theorem failsBy (back : Impairs internal second first) (fails : FailsBy internal first) :
    FailsBy internal second := by
  rcases back with rfl | failsToo
  · exact fails
  · exact failsToo

end Impairs

def Faults.Impairs (first second : Faults) : Prop :=
  ∀ operation, first operation = second operation ∨
    ∃ error, first operation = some error ∧ error.Internal

structure Provider.Impairs (first second : Provider) : Prop where
  exchangeCode : ∀ code verifier, GameCatalog.Impairs LoginError.Internal
    (first.exchangeCode code verifier) (second.exchangeCode code verifier)
  fetchUser : ∀ token, GameCatalog.Impairs LoginError.Internal
    (first.fetchUser token) (second.fetchUser token)
  revoke : ∀ token, GameCatalog.Impairs LoginError.Internal
    (first.revoke token) (second.revoke token)

theorem Faults.Impairs.refl (faults : Faults) : faults.Impairs faults := fun _ => .inl rfl

theorem Provider.Impairs.refl (provider : Provider) : provider.Impairs provider :=
  ⟨fun _ _ => .refl _, fun _ => .refl _, fun _ => .refl _⟩

/-- The disks hold the same, and the first one takes no write that the second one refuses. -/
structure Disk.Impairs (first second : Disk) : Prop where
  entry : first.entry = second.entry
  reachable : first.reachable = true → second.reachable = true
  refusal : first.refusal = none → second.refusal = none

/-- The repositories hold the same document, and the first one may fail more often. -/
structure Repository.Impairs (first second : Repository) : Prop where
  document : first.document = second.document
  faults : first.faults.Impairs second.faults

/-- The first circumstances are the second ones, with internal failures in the place of answers. -/
structure Circumstances.Impairs (first second : Circumstances) : Prop where
  clock : first.clock = second.clock
  uptime : first.uptime = second.uptime
  faults : first.faults.Impairs second.faults
  provider : first.provider.Impairs second.provider
  refusal : first.refusal = none → second.refusal = none

/-- The first world is the second one, with internal failures in the place of answers. -/
structure World.Impairs (first second : World) : Prop where
  live : first.store.live = second.store.live
  disk : first.store.disk.Impairs second.store.disk
  faults : first.faults.Impairs second.faults
  provider : first.provider.Impairs second.provider
  clock : first.clock = second.clock
  uptime : first.uptime = second.uptime
  symbols : first.symbols = second.symbols
  identifiers : first.identifiers = second.identifiers
  calls : first.calls = second.calls
  observations : first.observations = second.observations

theorem Disk.Impairs.refusal? {first second : Disk} (impairs : first.Impairs second)
    (accepts : first.refusal? = none) : second.refusal? = none := by
  unfold Disk.refusal? at accepts ⊢
  cases refused : first.refusal with
  | some refusal => simp [refused] at accepts
  | none =>
      rw [impairs.refusal refused, ← impairs.entry]
      cases reached : first.reachable with
      | false => simp [refused, reached] at accepts
      | true => simpa [refused, reached, impairs.reachable reached] using accepts

namespace World.Impairs

variable {first second : World}

theorem refl (world : World) : world.Impairs world where
  live := rfl
  disk := ⟨rfl, id, id⟩
  faults := .refl _
  provider := .refl _
  clock := rfl
  uptime := rfl
  symbols := rfl
  identifiers := rfl
  calls := rfl
  observations := rfl

theorem repository (impairs : first.Impairs second) :
    first.repository.Impairs second.repository :=
  ⟨impairs.live, impairs.faults⟩

theorem under (impairs : first.Impairs second) {here there : Circumstances}
    (met : here.Impairs there) : (first.under here).Impairs (second.under there) := {
  impairs with
  disk := ⟨impairs.disk.entry, impairs.disk.reachable, met.refusal⟩
  faults := met.faults
  provider := met.provider
  clock := met.clock
  uptime := met.uptime }

theorem written (impairs : first.Impairs second) (next : Document) :
    World.Impairs { first with store := first.store.written next }
      { second with store := second.store.written next } := {
  impairs with
  live := rfl
  disk := ⟨rfl, impairs.disk.reachable, impairs.disk.refusal⟩ }

theorem untouched (impairs : first.Impairs second) {firstAfter secondAfter : Store}
    (firstUntouched : first.store.Untouched firstAfter)
    (secondUntouched : second.store.Untouched secondAfter) :
    World.Impairs { first with store := firstAfter } { second with store := secondAfter } := by
  obtain ⟨_, rfl⟩ := firstUntouched
  obtain ⟨_, rfl⟩ := secondUntouched
  exact { impairs with disk := ⟨impairs.disk.entry, impairs.disk.reachable, impairs.disk.refusal⟩ }

theorem observing (impairs : first.Impairs second) (observation : Observation) :
    World.Impairs { first with observations := first.observations ++ [observation] }
      { second with observations := second.observations ++ [observation] } :=
  { impairs with observations := by rw [impairs.observations] }

/-- A commit ends alike in both worlds, or the first one refuses the write. -/
theorem commit {Result : Type} (impairs : first.Impairs second) (change : Store.Change Result) :
    ((first.store.commit change).1 = (second.store.commit change).1 ∧
      World.Impairs { first with store := (first.store.commit change).2 }
        { second with store := (second.store.commit change).2 }) ∨
    (FailsBy StoreError.Internal (first.store.commit change).1 ∧ (second.Impairs first →
      FailsBy StoreError.Internal (second.store.commit change).1 ∧
        World.Impairs { first with store := (first.store.commit change).2 }
          { second with store := (second.store.commit change).2 })) := by
  have sameChange : change first.store.live = change second.store.live := by rw [impairs.live]
  cases changed : change second.store.live with
  | error error =>
      rw [Store.commit_of_error changed, Store.commit_of_error (sameChange.trans changed)]
      exact .inl ⟨rfl, impairs⟩
  | ok pair =>
      obtain ⟨result, next⟩ := pair
      cases refused : first.store.disk.refusal? with
      | none =>
          rw [Store.commit_of_accepts changed (impairs.disk.refusal? refused),
            Store.commit_of_accepts (sameChange.trans changed) refused]
          exact .inl ⟨rfl, impairs.written next⟩
      | some refusal =>
          obtain ⟨firstAfter, firstFailed, firstUntouched⟩ :=
            Store.commit_of_refuses (sameChange.trans changed) refused
          rw [firstFailed]
          refine .inr ⟨⟨_, rfl, nofun⟩, fun back => ?_⟩
          cases refusedToo : second.store.disk.refusal? with
          | none =>
              rw [back.disk.refusal? refusedToo] at refused
              contradiction
          | some other =>
              obtain ⟨secondAfter, secondFailed, secondUntouched⟩ :=
                Store.commit_of_refuses changed refusedToo
              rw [secondFailed]
              exact ⟨⟨_, rfl, nofun⟩, impairs.untouched firstUntouched secondUntouched⟩

end World.Impairs

/-- A question is answered alike by both repositories, or the first one fails internally. -/
theorem Repository.Impairs.answer {first second : Repository} (impairs : first.Impairs second)
    {Value : Type} (operation : Operation) (question : Document → Value) :
    GameCatalog.Impairs StoreError.Internal (first.answer operation question)
      (second.answer operation question) := by
  unfold Repository.answer
  rw [impairs.document]
  rcases impairs.faults operation with same | ⟨error, failing, isInternal⟩
  · rw [same]
    exact .refl _
  · rw [failing]
    exact .inr ⟨error, rfl, isInternal⟩

theorem Faults.Impairs.first?_eq_none {first second : Faults} (impairs : first.Impairs second)
    {operations : List Operation} (works : first.first? operations = .none) :
    second.first? operations = .none := by
  rw [Faults.first?, List.findSome?_eq_none_iff] at works ⊢
  intro operation consulted
  have quiet := works operation consulted
  rw [Option.map_eq_none_iff] at quiet ⊢
  rcases impairs operation with same | ⟨error, fails, -⟩
  · rw [← same]
    exact quiet
  · rw [fails] at quiet
    contradiction

theorem Access.check_impairs {first second : Repository} (impairs : first.Impairs second)
    (scheme : Scheme) (credentials : Credentials) (now : Instant) :
    GameCatalog.Impairs (fun error => ∃ reason, error = .lookup reason)
      (check scheme first credentials now) (check scheme second credentials now) := by
  obtain ⟨operations, consults⟩ := failsClosed_decide second.document credentials now scheme
  obtain ⟨document, faults⟩ := first
  cases (impairs.document : document = second.document)
  cases failing : faults.first? operations with
  | none =>
      have works : second.faults.first? operations = none :=
        impairs.faults.first?_eq_none failing
      have decidedFirst := consults faults
      have decidedSecond := consults second.faults
      simp only [failing] at decidedFirst
      simp only [works] at decidedSecond
      left
      unfold check
      rw [decidedFirst, decidedSecond]
  | some failure =>
      have decided := consults faults
      simp only [failing] at decided
      right
      unfold check FailsBy
      rw [decided]
      obtain ⟨operation, error⟩ := failure
      cases operation <;> exact ⟨_, rfl, _, rfl⟩

namespace Job

variable {Error Other Result Next : Type} {internal : Error → Prop}

/--
In an impaired world the job ends as in the other one, or with an internal failure; in that case
it leaves behind the same when the other world is impaired too.
-/
def Discreet (internal : Error → Prop) (job : Job Error Result) : Prop :=
  ∀ first second : World, first.Impairs second →
    ((exec job first).1 = (exec job second).1 ∧ (exec job first).2.Impairs (exec job second).2) ∨
    (FailsBy internal (exec job first).1 ∧ (second.Impairs first →
      FailsBy internal (exec job second).1 ∧ (exec job first).2.Impairs (exec job second).2))

namespace Discreet

theorem pure (result : Result) : Discreet internal (Pure.pure result : Job Error Result) :=
  fun _ _ impairs => .inl ⟨rfl, impairs⟩

theorem throw (error : Error) :
    Discreet internal (MonadExcept.throw error : Job Error Result) :=
  fun _ _ impairs => .inl ⟨rfl, impairs⟩

theorem throw_bind (error : Error) (next : Result → Job Error Next) :
    Discreet internal (MonadExcept.throw error >>= next) :=
  fun _ _ impairs => .inl ⟨rfl, impairs⟩

theorem impairs_after {job : Job Error Result} (discreet : Discreet internal job)
    {first second : World} (impairs : first.Impairs second) (back : second.Impairs first) :
    (exec job first).2.Impairs (exec job second).2 := by
  rcases discreet first second impairs with ⟨-, after⟩ | ⟨-, matched⟩
  · exact after
  · exact (matched back).2

theorem bind {job : Job Error Result} {next : Result → Job Error Next}
    (discreet : Discreet internal job) (rest : ∀ result, Discreet internal (next result)) :
    Discreet internal (job >>= next) := by
  intro first second impairs
  rcases discreet first second impairs with ⟨same, after⟩ | ⟨⟨error, failed, isInternal⟩, matched⟩
  · have afterBack : second.Impairs first → (exec job second).2.Impairs (exec job first).2 :=
      fun back => discreet.impairs_after back impairs
    rcases firstEnded : exec job first with ⟨outcome, firstAfter⟩
    rcases secondEnded : exec job second with ⟨secondOutcome, secondAfter⟩
    rw [firstEnded, secondEnded] at same after afterBack
    cases same
    cases outcome with
    | error error =>
        rw [exec_bind_of_error firstEnded, exec_bind_of_error secondEnded]
        exact .inl ⟨rfl, after⟩
    | ok result =>
        rw [exec_bind_of_ok firstEnded, exec_bind_of_ok secondEnded]
        rcases rest result firstAfter secondAfter after with ended | ⟨failed, matched⟩
        · exact .inl ended
        · exact .inr ⟨failed, fun back => matched (afterBack back)⟩
  · have firstEnded : exec job first = (.error error, (exec job first).2) :=
      Prod.ext failed rfl
    rw [exec_bind_of_error firstEnded]
    refine .inr ⟨⟨error, rfl, isInternal⟩, fun back => ?_⟩
    obtain ⟨⟨other, failedToo, isInternalToo⟩, after⟩ := matched back
    have secondEnded : exec job second = (.error other, (exec job second).2) :=
      Prod.ext failedToo rfl
    rw [exec_bind_of_error secondEnded]
    exact ⟨⟨other, rfl, isInternalToo⟩, after⟩

theorem get_bind {next : World → Job Error Next}
    (same : ∀ first second : World, first.Impairs second → next first = next second)
    (discreet : ∀ world, Discreet internal (next world)) :
    Discreet internal (MonadState.get >>= next) := by
  intro first second impairs
  rw [exec_get_bind, exec_get_bind, same first second impairs]
  exact discreet second first second impairs

theorem of_ending {job : Job Error Result}
    (ending : ∀ first second : World, first.Impairs second →
      Impairs internal (exec job first).1 (exec job second).1)
    (after : ∀ first second : World, first.Impairs second →
      (exec job first).2.Impairs (exec job second).2) : Discreet internal job := by
  intro first second impairs
  rcases ending first second impairs with same | fails
  · exact .inl ⟨same, after first second impairs⟩
  · exact .inr ⟨fails, fun back =>
      ⟨(ending second first back).failsBy fails, after first second impairs⟩⟩

theorem ask {question : Repository → Except Error Result}
    (answered : ∀ first second : Repository, first.Impairs second →
      Impairs internal (question first) (question second)) :
    Discreet internal (Job.ask question) := by
  apply of_ending
  · intro first second impairs
    rw [exec_ask, exec_ask]
    exact answered _ _ impairs.repository
  · intro first second impairs
    rw [exec_ask, exec_ask]
    exact impairs

theorem call (record : ProviderCall) {answer : Provider → Except LoginError Result}
    (answered : ∀ first second : Provider, first.Impairs second →
      Impairs LoginError.Internal (answer first) (answer second)) :
    Discreet LoginError.Internal (Job.call record answer) := by
  apply of_ending
  · intro first second impairs
    rw [exec_call, exec_call]
    exact answered _ _ impairs.provider
  · intro first second impairs
    rw [exec_call, exec_call]
    exact { impairs with calls := by rw [impairs.calls] }

theorem observe (observation : Observation) :
    Discreet internal (Job.observe observation : Job Error Unit) :=
  fun _ _ impairs => .inl ⟨rfl, impairs.observing observation⟩

theorem drawSymbols (draw : Stream → Result × Stream) :
    Discreet internal (Job.drawSymbols draw : Job Error Result) := by
  intro first second impairs
  rw [exec_drawSymbols, exec_drawSymbols, impairs.symbols]
  exact .inl ⟨rfl, { impairs with symbols := rfl }⟩

theorem drawIdentifier {entity : Entity} :
    Discreet internal (Job.drawIdentifier : Job Error (Id entity)) := by
  intro first second impairs
  rw [exec_drawIdentifier, exec_drawIdentifier, impairs.identifiers]
  exact .inl ⟨rfl, { impairs with identifiers := rfl }⟩

theorem mapError {internalHere : Other → Prop} {convert : Error → Other}
    (converts : ∀ error, internal error → internalHere (convert error))
    {job : Job Error Result} (discreet : Discreet internal job) :
    Discreet internalHere (job.mapError convert) := by
  have converted {outcome : Except Error Result} (fails : FailsBy internal outcome) :
      FailsBy internalHere (outcome.mapError convert) := by
    obtain ⟨error, rfl, isInternal⟩ := fails
    exact ⟨convert error, rfl, converts error isInternal⟩
  intro first second impairs
  rw [exec_mapError, exec_mapError]
  rcases discreet first second impairs with ⟨same, after⟩ | ⟨fails, matched⟩
  · rw [same]
    exact .inl ⟨rfl, after⟩
  · refine .inr ⟨converted fails, fun back => ?_⟩
    obtain ⟨failsToo, after⟩ := matched back
    exact ⟨converted failsToo, after⟩

/-- A failure is looked into, and an internal one leaves one and the same trace whatever it is. -/
theorem attempt_bind {internalHere : Other → Prop} {job : Job Error Result}
    {next : Except Error Result → Job Other Next} (discreet : Discreet internal job)
    (rest : ∀ outcome, Discreet internalHere (next outcome)) (trace : Observation)
    (traced : ∀ error, internal error → ∃ failure, internalHere failure ∧ ∀ world : World,
      exec (next (.error error)) world =
        (.error failure, { world with observations := world.observations ++ [trace] })) :
    Discreet internalHere (job.attempt >>= next) := by
  intro first second impairs
  rw [exec_bind_of_ok (exec_attempt job first), exec_bind_of_ok (exec_attempt job second)]
  rcases discreet first second impairs with ⟨same, after⟩ | ⟨⟨error, failed, isInternal⟩, matched⟩
  · rw [same]
    rcases rest _ _ _ after with ended | ⟨failed, matchedRest⟩
    · exact .inl ended
    · exact .inr ⟨failed, fun back => matchedRest (discreet.impairs_after back impairs)⟩
  · obtain ⟨failure, failureInternal, ended⟩ := traced error isInternal
    rw [failed, ended]
    refine .inr ⟨⟨failure, rfl, failureInternal⟩, fun back => ?_⟩
    obtain ⟨⟨other, failedToo, otherInternal⟩, after⟩ := matched back
    obtain ⟨failureToo, failureTooInternal, endedToo⟩ := traced other otherInternal
    rw [failedToo, endedToo]
    exact ⟨⟨failureToo, rfl, failureTooInternal⟩, after.observing trace⟩

/-- A change of the document is carried out in both worlds, or it fails and touches nothing. -/
theorem mutate (operation : Operation) {mutation : Store → Store.Outcome Result}
    {change : Store.Change Result} (commits : ∀ store, mutation store = store.commit change) :
    Discreet StoreError.Internal (Job.mutate operation mutation) := by
  intro first second impairs
  rw [exec_mutate, exec_mutate]
  rcases impairs.faults operation with same | ⟨error, failing, isInternal⟩
  · rw [same]
    cases second.faults operation with
    | some error => exact .inl ⟨rfl, impairs⟩
    | none =>
        simp only [commits]
        rcases impairs.commit change with ⟨ending, after⟩ | ⟨fails, matched⟩
        · exact .inl ⟨ending, after⟩
        · exact .inr ⟨fails, matched⟩
  · rw [failing]
    refine .inr ⟨⟨error, rfl, isInternal⟩, fun back => ?_⟩
    rcases back.faults operation with same | ⟨other, failingToo, otherInternal⟩
    · rw [same, failing]
      exact ⟨⟨error, rfl, isInternal⟩, impairs⟩
    · rw [failingToo]
      exact ⟨⟨other, rfl, otherInternal⟩, impairs⟩

end Discreet

end Job

end GameCatalog
