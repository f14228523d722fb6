import GameCatalog.Proofs.Job

/-!
What the services find around them.  Between two calls the clock may be set, the identity
provider may change its mind, operations of the repository may begin or cease to fail, and the
disk may begin or cease to refuse writes.
-/

namespace GameCatalog

/-- What a call finds around it. -/
structure Circumstances where
  clock : Instant
  uptime : Nat
  faults : Faults
  provider : Provider
  /-- Where the disk will refuse a write. -/
  refusal : Option Refusal

def World.under (world : World) (circumstances : Circumstances) : World := {
  world with
  store := world.store.facing circumstances.refusal
  clock := circumstances.clock
  uptime := circumstances.uptime
  faults := circumstances.faults
  provider := circumstances.provider }

namespace World

variable (world : World) (circumstances : Circumstances)

@[simp]
theorem under_live : (world.under circumstances).store.live = world.store.live := rfl

@[simp]
theorem under_clock : (world.under circumstances).clock = circumstances.clock := rfl

@[simp]
theorem under_faults : (world.under circumstances).faults = circumstances.faults := rfl

end World

end GameCatalog
