import GameCatalog.Login.Provider
import GameCatalog.Random.Alphanumeric
import GameCatalog.Service.Metrics
import GameCatalog.Store.Mutation
import GameCatalog.Store.Query

/-!
The world that the services work in: the store, the clock, the sources of random
octets, the identity provider, and the record of what happened.  A `Job` may read and
change the world and may fail; what it did before it failed stays done.
-/

namespace GameCatalog

structure World where
  store : Store
  faults : Faults := Faults.none
  clock : Instant
  /-- Seconds since the gateway was started. -/
  uptime : Nat := 0
  /-- Where the characters of keys and tokens come from. -/
  symbols : Stream
  /-- Where identifiers come from. -/
  identifiers : Stream
  provider : Provider
  /-- What was asked of the identity provider, the oldest first. -/
  calls : List ProviderCall := []
  /-- What was counted, the oldest first. -/
  observations : List Observation := []

/-- Work that changes the world and may fail. -/
abbrev Job (Error Result : Type) := ExceptT Error (StateM World) Result

namespace World

/-- What can be read of the store. -/
def repository (world : World) : Repository := ⟨world.store.live, world.faults⟩

end World

namespace Job

variable {Error Result : Type}

def ask (question : Repository → Except Error Result) : Job Error Result := do
  match question (← get).repository with
  | .ok result => return result
  | .error error => throw error

/-- Changes the store by an operation of the repository, unless the operation fails. -/
def mutate (operation : Operation) (mutation : Store → Store.Outcome Result) :
    Job StoreError Result := do
  let world ← get
  match world.faults operation with
  | some error => throw error
  | none =>
      let (outcome, store) := mutation world.store
      set { world with store }
      match outcome with
      | .ok result => return result
      | .error error => throw error

def mapError {Other : Type} (convert : Error → Other) (job : Job Error Result) :
    Job Other Result :=
  ExceptT.adapt convert job

def attempt {Other : Type} (job : Job Error Result) : Job Other (Except Error Result) :=
  ExceptT.lift job.run

/-- Asks the identity provider, leaving a record of it. -/
def call (record : ProviderCall) (answer : Provider → Except LoginError Result) :
    Job LoginError Result := do
  modify fun world => { world with calls := world.calls ++ [record] }
  match answer (← get).provider with
  | .ok result => return result
  | .error error => throw error

def observe (observation : Observation) : Job Error Unit :=
  modify fun world => { world with observations := world.observations ++ [observation] }

def drawSymbols (draw : Stream → Result × Stream) : Job Error Result := do
  let world ← get
  let (result, symbols) := draw world.symbols
  set { world with symbols }
  return result

def drawIdentifier {entity : Entity} : Job Error (Id entity) := do
  let world ← get
  let (id, identifiers) := world.identifiers.identifier
  set { world with identifiers }
  return id

end Job

end GameCatalog
