import GameCatalog.Proofs.Circumstances
import GameCatalog.Proofs.Respects

/-!
The records of the world: what was asked of the identity provider, and what was counted.  They
are written as the services work, and hardly anything reads them.
-/

namespace GameCatalog

namespace World

def unrecorded (world : World) : World := { world with calls := [], observations := [] }

/-- The worlds differ in their records only. -/
def SameRest (first second : World) : Prop := first.unrecorded = second.unrecorded

namespace SameRest

variable {first second : World} (same : first.SameRest second)
include same

/-- Whatever does not look at the records finds the same. -/
theorem congr {Value : Type} (view : World → Value) : view first.unrecorded = view second.unrecorded :=
  congrArg view same

theorem store : first.store = second.store :=
  same.congr World.store

theorem repository : first.repository = second.repository :=
  same.congr World.repository

theorem under (circumstances : Circumstances) :
    (first.under circumstances).SameRest (second.under circumstances) :=
  same.congr (World.under · circumstances)

theorem mutation {Result : Type} (mutation : Store → Store.Outcome Result) :
    (mutation first.store).1 = (mutation second.store).1 ∧
      SameRest { first with store := (mutation first.store).2 }
        { second with store := (mutation second.store).2 } := by
  rw [same.store]
  exact ⟨rfl, same.congr fun world => ({ world with store := (mutation second.store).2 } : World)⟩

end SameRest

theorem likeness_sameRest : Likeness SameRest where
  faults same := same.congr World.faults
  clock same := same.congr World.clock
  uptime same := same.congr World.uptime
  symbols same := same.congr World.symbols
  identifiers same := same.congr World.identifiers
  provider same := same.congr World.provider
  withSymbols same symbols := same.congr fun world => ({ world with symbols } : World)
  withIdentifiers same identifiers := same.congr fun world => ({ world with identifiers } : World)
  recorded same _ _ _ _ := same
  findProductKey same text := congrArg (·.findProductKey text) same.repository
  saveLauncherSession same key session := same.mutation (·.saveLauncherSession key session)

end World

namespace Job

variable {Error Result : Type}

theorem respects_ask (question : Repository → Except Error Result) :
    (ask question).Respects World.SameRest :=
  .ask fun _ _ same => congrArg question same.repository

theorem respects_mutate (operation : Operation) (mutation : Store → Store.Outcome Result) :
    (mutate operation mutation).Respects World.SameRest :=
  .mutate World.likeness_sameRest _ fun _ _ same => same.mutation mutation

end Job

end GameCatalog
