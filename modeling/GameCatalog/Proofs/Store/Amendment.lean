import GameCatalog.Proofs.Store.Durability
import GameCatalog.Proofs.Store.Enlargement
import GameCatalog.Proofs.Store.Insertion

/-!
Mutations as amendments.  A mutation that takes nothing out puts records into the parts of the
document, or puts revised records in their places.  What it puts in, and what it returns, depends
on the document only through the records that it touches.
-/

namespace GameCatalog.Store

/-- What a mutation may touch. -/
inductive Record where
  | edition (id : EditionId)
  | game (id : GameId)
  | admin (user : UserId)
  | role (game : GameId) (user : UserId)
  | productKey (id : ProductKeyId)
  | launcherSession (id : LauncherSessionId)
  deriving DecidableEq

namespace Mutation

def Sweeps : Mutation → Prop
  | deleteExpiredSessions _ => True
  | _ => False

def Result : Mutation → Type
  | updateVisibility _ _ => Game
  | deleteExpiredSessions _ => Nat
  | _ => Unit

def run (store : Store) : (mutation : Mutation) → Outcome mutation.Result
  | insertEdition edition => store.insertEdition edition
  | insertGame game => store.insertGame game
  | grantAdmin user => store.grantAdmin user
  | setGameRole game user role => store.setGameRole game user role
  | updateVisibility id visibility => store.updateVisibility id visibility
  | saveProductKeys edition keys => store.saveProductKeys edition keys
  | updateProductKeyStatus id status => store.updateProductKeyStatus id status
  | saveLauncherSession productKey session => store.saveLauncherSession productKey session
  | deleteExpiredSessions now => store.deleteExpiredSessions now

/-- The records that a mutation puts in or revises. -/
def touched : Mutation → List Record
  | insertEdition edition => [.edition edition.id]
  | insertGame game => [.game game.id]
  | grantAdmin user => [.admin user]
  | setGameRole game user _ => [.role game user]
  | updateVisibility id _ => [.game id]
  | saveProductKeys _ keys => keys.map fun key => .productKey key.id
  | updateProductKeyStatus id _ => [.productKey id]
  | saveLauncherSession _ session => [.launcherSession session.id]
  | deleteExpiredSessions _ => []

/-- The texts of the keys that a mutation puts in. -/
def texts : Mutation → List String
  | saveProductKeys _ keys => keys.map (·.key.expose)
  | _ => []

/-- The tokens of the sessions that a mutation puts in. -/
def tokens : Mutation → List String
  | saveLauncherSession _ session => [session.accessToken.expose]
  | _ => []

section Parts

def admins : Mutation → List UserId
  | grantAdmin user => [user]
  | _ => []

def editions : Mutation → List (EditionId × Edition)
  | insertEdition edition => [(edition.id, edition)]
  | _ => []

def games (document : Document) : Mutation → List (GameId × Game)
  | insertGame game => [(game.id, game)]
  | updateVisibility id visibility =>
      (document.games.get? id).toList.map fun game => (id, { game with visibility })
  | _ => []

def roles : Mutation → List ((GameId × UserId) × GameRole)
  | setGameRole game user role => [((game, user), role)]
  | _ => []

def productKeys (document : Document) : Mutation → List (ProductKeyId × StoredKey)
  | saveProductKeys edition keys => keys.map fun key => (key.id, ⟨edition, key⟩)
  | updateProductKeyStatus id status =>
      (document.productKeys.get? id).toList.map fun stored =>
        (id, { stored with productKey := { stored.productKey with status } })
  | _ => []

def launcherSessions : Mutation → List (LauncherSessionId × StoredSession)
  | saveLauncherSession productKey session => [(session.id, ⟨productKey, session⟩)]
  | _ => []

/-- The document with all that a mutation puts in or revises. -/
def amended (document : Document) (mutation : Mutation) : Document where
  admins := (mutation.admins.foldl Document.grantAdmin document).admins
  editions := document.editions.insertAll mutation.editions
  games := document.games.insertAll (mutation.games document)
  gameRoles := (mutation.roles.foldl (fun document entry =>
    document.setGameRole entry.1.1 entry.1.2 entry.2) document).gameRoles
  productKeys := document.productKeys.insertAll (mutation.productKeys document)
  launcherSessions := document.launcherSessions.insertAll mutation.launcherSessions

/-- What a mutation returns, unless the record that it revises is not there. -/
def answer (document : Document) : (mutation : Mutation) → Except StoreError mutation.Result
  | insertEdition _ => .ok ()
  | insertGame _ => .ok ()
  | grantAdmin _ => .ok ()
  | setGameRole _ _ _ => .ok ()
  | updateVisibility id visibility =>
      match document.games.get? id with
      | none => .error (.notFound ("game " ++ id.toText))
      | some game => .ok { game with visibility }
  | saveProductKeys _ _ => .ok ()
  | updateProductKeyStatus id _ =>
      match document.productKeys.get? id with
      | none => .error (.notFound ("product key " ++ id.toText))
      | some _ => .ok ()
  | saveLauncherSession _ _ => .ok ()
  | deleteExpiredSessions now => .ok (document.launcherSessions.size -
      (document.dropExpiredSessions now).launcherSessions.size)

end Parts

def change (mutation : Mutation) : Change mutation.Result := fun document =>
  (mutation.answer document).map fun result => (result, mutation.amended document)

theorem change_grantAdmin (user : UserId) (document : Document) :
    change (grantAdmin user) document = .ok ((), document.grantAdmin user) := by
  have amended_eq : (grantAdmin user).amended document = document.grantAdmin user := by
    unfold amended Document.grantAdmin
    by_cases already : user ∈ document.admins
    · simp only [admins, List.foldl_cons, List.foldl_nil, already, if_true]
      rfl
    · simp only [admins, List.foldl_cons, List.foldl_nil, already, if_false]
      rfl
  rw [← amended_eq]
  rfl

theorem change_saveProductKeys (edition : EditionId) (keys : List ProductKey)
    (document : Document) :
    change (saveProductKeys edition keys) document =
      .ok ((), document.insertProductKeys edition keys) := by
  have amended_eq : (saveProductKeys edition keys).amended document =
      document.insertProductKeys edition keys := by
    unfold amended Document.insertProductKeys Table.insertAll productKeys
    rw [List.foldl_map]
    rfl
  rw [← amended_eq]
  rfl

theorem change_updateVisibility (id : GameId) (visibility : Visibility) (document : Document) :
    change (updateVisibility id visibility) document =
      document.updateVisibility id visibility := by
  cases found : document.games.get? id <;>
    simp only [change, answer, amended, games, Document.updateVisibility, found] <;>
    rfl

theorem change_updateProductKeyStatus (id : ProductKeyId) (status : KeyStatus)
    (document : Document) :
    change (updateProductKeyStatus id status) document =
      document.updateProductKeyStatus id status := by
  cases found : document.productKeys.get? id <;>
    simp only [change, answer, amended, productKeys, Document.updateProductKeyStatus, found] <;>
    rfl

/-- A mutation that takes nothing out is committed. -/
theorem run_eq_commit (store : Store) {mutation : Mutation} (edits : ¬mutation.Sweeps) :
    mutation.run store = store.commit mutation.change := by
  cases mutation with
  | insertEdition edition => rfl
  | insertGame game => rfl
  | grantAdmin user => exact congrArg store.commit (funext (change_grantAdmin user)).symm
  | setGameRole game user role => rfl
  | updateVisibility id visibility =>
      exact congrArg store.commit (funext (change_updateVisibility id visibility)).symm
  | saveProductKeys edition keys =>
      exact congrArg store.commit (funext (change_saveProductKeys edition keys)).symm
  | updateProductKeyStatus id status =>
      exact congrArg store.commit (funext (change_updateProductKeyStatus id status)).symm
  | saveLauncherSession productKey session => rfl
  | deleteExpiredSessions now => exact absurd trivial edits

theorem run_eq_ok_iff {store after : Store} {mutation : Mutation} {result : mutation.Result}
    (edits : ¬mutation.Sweeps) :
    mutation.run store = (.ok result, after) ↔
      mutation.answer store.live = .ok result ∧ store.disk.refusal? = none ∧
        after = store.written (mutation.amended store.live) := by
  rw [run_eq_commit store edits]
  constructor
  · intro committed
    rcases commit_cases store mutation.change with
      ⟨given, next, changed, accepts, ended⟩ | ⟨error, later, ended, -⟩
    · cases ended.symm.trans committed
      unfold change at changed
      cases answered : mutation.answer store.live with
      | error error => rw [answered] at changed; exact nomatch changed
      | ok value =>
          rw [answered] at changed
          cases changed
          exact ⟨rfl, accepts, rfl⟩
    · exact nomatch ended.symm.trans committed
  · rintro ⟨answered, accepts, rfl⟩
    apply commit_of_accepts _ accepts
    rw [change, answered]
    rfl

section Locality

variable {mutation first second : Mutation} {document : Document}

theorem editions_touched :
    ∀ id ∈ mutation.editions.map Prod.fst, .edition id ∈ mutation.touched := by
  cases mutation <;> simp [editions, touched]

theorem games_touched :
    ∀ id ∈ (mutation.games document).map Prod.fst, .game id ∈ mutation.touched := by
  cases mutation <;> simp [games, touched]

theorem roles_touched :
    ∀ key ∈ mutation.roles.map Prod.fst, .role key.1 key.2 ∈ mutation.touched := by
  cases mutation <;> simp [roles, touched]

theorem productKeys_touched :
    ∀ id ∈ (mutation.productKeys document).map Prod.fst, .productKey id ∈ mutation.touched := by
  cases mutation <;> simp [productKeys, touched]

theorem launcherSessions_touched :
    ∀ id ∈ mutation.launcherSessions.map Prod.fst, .launcherSession id ∈ mutation.touched := by
  cases mutation <;> simp [launcherSessions, touched]

theorem get?_games_amended {id : GameId} (untouched : .game id ∉ mutation.touched) :
    (mutation.amended document).games.get? id = document.games.get? id :=
  Table.get?_insertAll_of_notMem _ fun membership => untouched (games_touched id membership)

theorem get?_productKeys_amended {id : ProductKeyId}
    (untouched : .productKey id ∉ mutation.touched) :
    (mutation.amended document).productKeys.get? id = document.productKeys.get? id :=
  Table.get?_insertAll_of_notMem _ fun membership => untouched (productKeys_touched id membership)

variable (apart : first.touched.Disjoint second.touched)
include apart

theorem answer_amended (edits : ¬second.Sweeps) (document : Document) :
    second.answer (first.amended document) = second.answer document := by
  cases second with
  | updateVisibility id visibility =>
      have untouched : .game id ∉ first.touched := fun membership =>
        apart membership List.mem_cons_self
      simp only [answer, get?_games_amended untouched]
  | updateProductKeyStatus id status =>
      have untouched : .productKey id ∉ first.touched := fun membership =>
        apart membership List.mem_cons_self
      simp only [answer, get?_productKeys_amended untouched]
  | deleteExpiredSessions now => exact absurd trivial edits
  | _ => rfl

theorem games_amended (document : Document) :
    second.games (first.amended document) = second.games document := by
  cases second with
  | updateVisibility id visibility =>
      have untouched : .game id ∉ first.touched := fun membership =>
        apart membership List.mem_cons_self
      simp only [games, get?_games_amended untouched]
  | _ => rfl

theorem productKeys_amended (document : Document) :
    second.productKeys (first.amended document) = second.productKeys document := by
  cases second with
  | updateProductKeyStatus id status =>
      have untouched : .productKey id ∉ first.touched := fun membership =>
        apart membership List.mem_cons_self
      simp only [productKeys, get?_productKeys_amended untouched]
  | _ => rfl

end Locality

section Answers

variable {mutation : Mutation} {document : Document}

theorem isAdmin_amended (user : UserId) :
    (mutation.amended document).isAdmin user =
      (mutation.admins.contains user || document.isAdmin user) := by
  cases mutation with
  | grantAdmin granted =>
      by_cases already : granted ∈ document.admins
      · by_cases same : user = granted
        · simp [amended, admins, Document.grantAdmin, Document.isAdmin, already, same]
        · simp [amended, admins, Document.grantAdmin, Document.isAdmin, already, same]
      · simp [amended, admins, Document.grantAdmin, Document.isAdmin, already, Bool.or_comm]
  | _ => rfl

theorem gameRole_amended (game : GameId) (user : UserId) :
    (mutation.amended document).gameRole game user =
      ((Table.ofList mutation.roles).get? (game, user)).or (document.gameRole game user) := by
  cases mutation with
  | setGameRole other someone role =>
      have set : ((setGameRole other someone role).amended document).gameRole game user =
          (document.setGameRole other someone role).gameRole game user := rfl
      rw [set, Document.gameRole_setGameRole]
      have one : (Table.ofList (setGameRole other someone role).roles).get? (game, user) =
          if (other, someone) = (game, user) then some role else none :=
        Table.get?_insert .empty (other, someone) (game, user) role
      simp only [one, Prod.mk.injEq]
      split <;> rfl
  | _ => rfl

/-- A record under a new identifier is put in by a mutation that names its text. -/
theorem productKeys_new {entry : ProductKeyId × StoredKey}
    (membership : entry ∈ mutation.productKeys document)
    (new : document.productKeys.get? entry.1 = none) :
    entry.2.productKey.id = entry.1 ∧ entry.2.productKey.key.expose ∈ mutation.texts := by
  cases mutation with
  | saveProductKeys edition keys =>
      obtain ⟨key, issued, rfl⟩ := List.mem_map.mp membership
      exact ⟨rfl, List.mem_map_of_mem issued⟩
  | updateProductKeyStatus id status =>
      obtain ⟨stored, found, rfl⟩ := List.mem_map.mp membership
      rw [Option.mem_toList] at found
      exact nomatch new.symm.trans found
  | _ => exact nomatch membership

theorem launcherSessions_new {entry : LauncherSessionId × StoredSession}
    (membership : entry ∈ mutation.launcherSessions) :
    entry.2.session.accessToken.expose ∈ mutation.tokens := by
  cases mutation with
  | saveLauncherSession productKey session =>
      cases List.mem_singleton.mp membership
      exact List.mem_cons_self
  | _ => exact nomatch membership

end Answers

end Mutation

end GameCatalog.Store
