import GameCatalog.Launcher.Sweep
import GameCatalog.Proofs.Job

/-!
What the services for launchers leave as it is.  A view of the world is steady when it shows neither
the store nor the sources of random octets; the services change nothing else, so they keep every
steady view, the records of the world among them.
-/

namespace GameCatalog

variable {View : Type}

/-- The view does not show what the services for launchers change. -/
structure Steady (view : World → View) : Prop where
  store : ∀ world store, view { world with store } = view world
  symbols : ∀ world symbols, view { world with symbols } = view world
  identifiers : ∀ world identifiers, view { world with identifiers } = view world

theorem steady_calls : Steady World.calls :=
  ⟨fun _ _ => rfl, fun _ _ => rfl, fun _ _ => rfl⟩

theorem steady_observations : Steady World.observations :=
  ⟨fun _ _ => rfl, fun _ _ => rfl, fun _ _ => rfl⟩

open Job

namespace Launcher

variable {view : World → View} (steady : Steady view)

theorem keeps_ask {Result : Type} (question : Repository → Except StoreError Result) :
    (ask question).Keeps view :=
  .mapError _ (.ask question)

include steady

theorem keeps_redeem (seconds : Nat) (text : String) : (redeem seconds text).Keeps view := by
  unfold redeem
  split
  · exact .throw_bind _ _
  · refine .bind (keeps_ask _) fun found => ?_
    split
    · exact .throw _
    · split
      · exact .throw_bind _ _
      · refine .bind (.drawIdentifier steady.identifiers) fun id => ?_
        refine .bind (.drawSymbols steady.symbols _) fun token => ?_
        refine .get_bind fun world => ?_
        exact .bind (.mapError _ (.mutate steady.store _ _)) fun _ => .pure _

theorem keeps_drawKeys (createdAt : Instant) (count : Nat) :
    (drawKeys createdAt count).Keeps view := by
  induction count with
  | zero => exact .pure _
  | succ count inductionHypothesis =>
      refine .bind (.drawIdentifier steady.identifiers) fun id => ?_
      refine .bind (.drawSymbols steady.symbols _) fun text => ?_
      exact .bind inductionHypothesis fun _ => .pure _

theorem keeps_generateKeys (edition : EditionId) (count : Nat) :
    (generateKeys edition count).Keeps view := by
  unfold generateKeys
  split
  · exact .throw_bind _ _
  · refine .bind (keeps_ask _) fun found => ?_
    split
    · exact .throw_bind _ _
    · refine .get_bind fun world => ?_
      refine .bind (keeps_drawKeys steady _ _) fun keys => ?_
      exact .bind (.mapError _ (.mutate steady.store _ _)) fun _ => .pure _

omit steady in
theorem keeps_listKeys (edition : EditionId) (status : Option KeyStatus) :
    (listKeys edition status).Keeps view := by
  refine .bind (keeps_ask _) fun found => ?_
  cases status <;> dsimp only <;> split
  · exact .throw_bind _ _
  · exact keeps_ask _
  · exact .throw_bind _ _
  · exact keeps_ask _

theorem keeps_setStatus (status : KeyStatus) (edition : EditionId) (id : ProductKeyId) :
    (setStatus status edition id).Keeps view := by
  refine .bind (keeps_ask _) fun found => ?_
  split
  · exact .throw _
  · dsimp only
    split
    · exact .throw_bind _ _
    · split
      · exact .pure _
      · exact .bind (.mapError _ (.mutate steady.store _ _)) fun _ => .pure _

end Launcher

theorem Sweep.keeps_run {view : World → View} (steady : Steady view) : run.Keeps view :=
  .get_bind fun _ => .mutate steady.store _ _

end GameCatalog
