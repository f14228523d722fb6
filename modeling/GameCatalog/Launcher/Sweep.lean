import GameCatalog.Launcher.Service

/-!
Sweeping: sessions that are over are taken out of the store now and then.  A sweep that
fails takes out nothing; the next one tries again.
-/

namespace GameCatalog.Sweep

def run : Job StoreError Nat := do
  let now := (← get).clock
  Job.mutate .deleteExpiredSessions (·.deleteExpiredSessions now)

/-- How many sessions a sweep took out, and the world after it. -/
def cycle (world : World) : Nat × World :=
  match run.run world with
  | (.ok removed, world) => (removed, world)
  | (.error _, world) => (0, world)

end GameCatalog.Sweep
