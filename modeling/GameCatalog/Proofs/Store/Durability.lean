import GameCatalog.Proofs.Store.Commit
import GameCatalog.Proofs.Store.Document

/-!
Mutations of the store.  A mutation writes its document and makes it live, or has nothing to write,
or fails and touches nothing; and what is written is found again when the store is opened.
-/

namespace GameCatalog.Store

/-- The operations that may change the document. -/
inductive Mutation where
  | insertEdition (edition : Edition)
  | insertGame (game : Game)
  | grantAdmin (user : UserId)
  | setGameRole (game : GameId) (user : UserId) (role : GameRole)
  | updateVisibility (id : GameId) (visibility : Visibility)
  | saveProductKeys (edition : EditionId) (keys : List ProductKey)
  | updateProductKeyStatus (id : ProductKeyId) (status : KeyStatus)
  | saveLauncherSession (productKey : ProductKeyId) (session : LauncherSession)
  | deleteExpiredSessions (now : Instant)

def discard {Result : Type} : Outcome Result → Outcome Unit
  | (outcome, store) => (outcome.map fun _ => (), store)

namespace Mutation

def perform (store : Store) : Mutation → Outcome Unit
  | insertEdition edition => store.insertEdition edition
  | insertGame game => store.insertGame game
  | grantAdmin user => store.grantAdmin user
  | setGameRole game user role => store.setGameRole game user role
  | updateVisibility id visibility => discard (store.updateVisibility id visibility)
  | saveProductKeys edition keys => store.saveProductKeys edition keys
  | updateProductKeyStatus id status => store.updateProductKeyStatus id status
  | saveLauncherSession productKey session => store.saveLauncherSession productKey session
  | deleteExpiredSessions now => discard (store.deleteExpiredSessions now)

def NothingExpired (document : Document) (now : Instant) : Prop :=
  ∀ stored ∈ document.launcherSessions.values, stored.session.isExpiredAt now = false

instance (document : Document) (now : Instant) : Decidable (NothingExpired document now) :=
  inferInstanceAs (Decidable (∀ stored ∈ document.launcherSessions.values, _))

def next? (document : Document) : Mutation → Option Document
  | insertEdition edition => some (document.insertEdition edition)
  | insertGame game => some (document.insertGame game)
  | grantAdmin user => some (document.grantAdmin user)
  | setGameRole game user role => some (document.setGameRole game user role)
  | updateVisibility id visibility =>
      (document.updateVisibility id visibility).toOption.map Prod.snd
  | saveProductKeys edition keys => some (document.insertProductKeys edition keys)
  | updateProductKeyStatus id status =>
      (document.updateProductKeyStatus id status).toOption.map Prod.snd
  | saveLauncherSession productKey session =>
      some (document.insertLauncherSession productKey session)
  | deleteExpiredSessions now =>
      if NothingExpired document now then none else some (document.dropExpiredSessions now)

def SweepsNothing (document : Document) (mutation : Mutation) : Prop :=
  ∃ now, mutation = deleteExpiredSessions now ∧ NothingExpired document now

/-- A mutation writes its document, or has nothing to write, or fails and touches nothing. -/
inductive Ending (store : Store) (mutation : Mutation) : Outcome Unit → Prop where
  | written {next : Document} (planned : mutation.next? store.live = some next) :
      Ending store mutation (.ok (), store.written next)
  | idle (nothing : mutation.SweepsNothing store.live) : Ending store mutation (.ok (), store)
  | failed {error : StoreError} {after : Store} (untouched : store.Untouched after) :
      Ending store mutation (.error error, after)

variable (store : Store)

theorem ending_commitTotal (change : Document → Document) {mutation : Mutation}
    (planned : mutation.next? store.live = some (change store.live)) :
    Ending store mutation (store.commitTotal change) := by
  rcases commitTotal_cases store change with ⟨-, committed⟩ | ⟨error, after, committed, untouched⟩
  · rw [committed]
    exact .written planned
  · rw [committed]
    exact .failed untouched

theorem ending_commit {Result : Type} (change : Change Result) {mutation : Mutation}
    (planned : mutation.next? store.live = (change store.live).toOption.map Prod.snd) :
    Ending store mutation (discard (store.commit change)) := by
  rcases commit_cases store change with
    ⟨result, next, changed, -, committed⟩ | ⟨error, after, committed, untouched⟩
  · rw [committed]
    exact .written (by rw [planned, changed]; rfl)
  · rw [committed]
    exact .failed untouched

theorem removed_eq_zero_iff (document : Document) (now : Instant) :
    document.launcherSessions.size - (document.dropExpiredSessions now).launcherSessions.size = 0 ↔
      NothingExpired document now := by
  have kept : (document.dropExpiredSessions now).launcherSessions =
      document.launcherSessions.filter fun stored => !stored.session.isExpiredAt now := rfl
  have fewer := Table.size_filter_le document.launcherSessions fun stored =>
    !stored.session.isExpiredAt now
  have same := @Table.size_filter_eq_iff _ _ document.launcherSessions fun stored =>
    !stored.session.isExpiredAt now
  simp only [Bool.not_eq_true'] at same
  rw [kept, NothingExpired, ← same]
  omega

theorem ending_deleteExpiredSessions (now : Instant) :
    Ending store (deleteExpiredSessions now) (discard (store.deleteExpiredSessions now)) := by
  have same := removed_eq_zero_iff store.live now
  rcases deleteExpiredSessions_cases store now with
    ⟨none, swept⟩ | ⟨some_, swept⟩ | ⟨error, after, swept, untouched⟩
  · rw [swept]
    exact .idle ⟨now, rfl, same.mp none⟩
  · rw [swept]
    exact .written (if_neg fun nothing => some_ (same.mpr nothing))
  · rw [swept]
    exact .failed untouched

@[simp]
theorem discard_unit (outcome : Outcome Unit) : discard outcome = outcome := by
  rcases outcome with ⟨_ | _, _⟩ <;> rfl

theorem ending (mutation : Mutation) : Ending store mutation (mutation.perform store) := by
  cases mutation with
  | insertEdition edition => exact ending_commitTotal store (·.insertEdition edition) rfl
  | insertGame game => exact ending_commitTotal store (·.insertGame game) rfl
  | grantAdmin user => exact ending_commitTotal store (·.grantAdmin user) rfl
  | setGameRole game user role => exact ending_commitTotal store (·.setGameRole game user role) rfl
  | updateVisibility id visibility =>
      exact ending_commit store (·.updateVisibility id visibility) rfl
  | saveProductKeys edition keys =>
      exact ending_commitTotal store (·.insertProductKeys edition keys) rfl
  | updateProductKeyStatus id status =>
      have ended : Ending store (updateProductKeyStatus id status) _ :=
        ending_commit store (·.updateProductKeyStatus id status) rfl
      rwa [discard_unit] at ended
  | saveLauncherSession productKey session =>
      exact ending_commitTotal store (·.insertLauncherSession productKey session) rfl
  | deleteExpiredSessions now => exact ending_deleteExpiredSessions store now

end Mutation

/-- A mutation, and where the disk will refuse the write of it. -/
structure Call where
  mutation : Mutation
  refusal : Option Refusal

def Call.perform (store : Store) (call : Call) : Outcome Unit :=
  call.mutation.perform (store.facing call.refusal)

/-- The store file holds the document in memory. -/
def Synced (store : Store) : Prop :=
  ∃ file, store.disk.entry = .file file ∧ (Utf8.decode? file.content).isSome = true ∧
    Document.read file.content = .ok store.live

theorem synced_written (store : Store) (next : Document) : (store.written next).Synced := by
  refine ⟨⟨Utf8.encode next.render, Disk.ownerOnly⟩, rfl, ?_, Document.read_render next⟩
  rw [Utf8.decode?_encode]
  rfl

theorem Call.ending (store : Store) (call : Call) :
    call.mutation.Ending (store.facing call.refusal) (call.perform store) :=
  Mutation.ending (store.facing call.refusal) call.mutation

theorem loadDocument_of_synced {store : Store} (synced : store.Synced) :
    loadDocument store.disk = (.ok store.live, store.disk) := by
  obtain ⟨file, there, text, read⟩ := synced
  have isText : (Utf8.decode? file.content).isNone = false := by
    rw [Option.isNone_eq_false_iff]
    exact text
  simp [loadDocument, there, isText, read]

/-- Opening the store again leads to the same store. -/
theorem load_of_synced {store : Store} (synced : store.Synced) :
    load store.disk = (.ok store, store.disk) := by
  unfold load
  rw [loadDocument_of_synced synced]

theorem reload_of_synced {store : Store} (synced : store.Synced) :
    store.reload = (.ok (), store) := by
  unfold reload
  rw [loadDocument_of_synced synced]

end GameCatalog.Store
