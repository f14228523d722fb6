import GameCatalog.Proofs.Access.LauncherPolicy
import GameCatalog.Proofs.Launcher.Inventory
import GameCatalog.Proofs.Store.RoundTrip

/-!
Documents that give the same answers.  What a document answers is known from the records under
each key, and from what its searches find and its lists hold; and these do not depend on the order
of the tables, as long as no text and no token is there twice and every key stands under the
identifier that it carries.  Where a text or a token is there twice, the order decides which of the
records is found, and each of them may be.
-/

namespace GameCatalog

namespace Document

section Managers

def managers (document : Document) (game : GameId) : List (UserId × GameRole) :=
  match document.gameRoles.get? game with
  | none => []
  | some roles => roles.entries

theorem mem_managers_iff {document : Document} {game : GameId} {user : UserId} {role : GameRole} :
    (user, role) ∈ document.managers game ↔ document.gameRole game user = some role := by
  unfold managers gameRole
  cases document.gameRoles.get? game with
  | none => simp
  | some roles => exact Table.get?_eq_some_iff.symm

theorem nodup_managers (document : Document) (game : GameId) :
    ((document.managers game).map Prod.fst).Nodup := by
  unfold managers
  split
  · exact List.nodup_nil
  · exact Table.distinct _

theorem gameManagers_congr {first second : Document}
    (same : first.gameRole = second.gameRole) : first.gameManagers = second.gameManagers := by
  funext game
  have sorted (document : Document) : document.gameManagers game =
      (document.managers game).mergeSort fun one other => !other.1.precedes one.1 := by
    unfold gameManagers managers
    cases document.gameRoles.get? game with
    | none => exact List.mergeSort_nil.symm
    | some roles => rfl
  have rearranged : (first.managers game).Perm (second.managers game) := by
    rw [List.perm_ext_iff_of_nodup (nodup_managers first game).of_map
      (nodup_managers second game).of_map]
    rintro ⟨user, role⟩
    rw [mem_managers_iff, mem_managers_iff, same]
  rw [sorted, sorted]
  apply Sorting.mergeSort_eq_of_perm _ _ rearranged
  · intro one there other thereToo ahead behind
    simp only [Id.precedes, Bool.not_eq_true', decide_eq_false_iff_not] at ahead behind
    have sameNumber : one.1.number = other.1.number := BitVec.eq_of_toNat_eq (by omega)
    exact List.inj_on_of_nodup_map (nodup_managers first game) there thereToo
      (congrArg Id.mk sameNumber)
  · intro one other another
    simp only [Id.precedes, Bool.not_eq_true', decide_eq_false_iff_not]
    omega
  · intro one other
    simp only [Id.precedes, Bool.or_eq_true, Bool.not_eq_true', decide_eq_false_iff_not]
    omega

end Managers

structure SameRecords (first second : Document) : Prop where
  editions : first.editions.get? = second.editions.get?
  games : first.games.get? = second.games.get?
  isAdmin : first.isAdmin = second.isAdmin
  gameRole : first.gameRole = second.gameRole
  productKeys : first.productKeys.get? = second.productKeys.get?

namespace SameRecords

variable {first second : Document} (same : first.SameRecords second)
include same

theorem hasEditionAccess : first.hasEditionAccess = second.hasEditionAccess := by
  funext edition user
  unfold Document.hasEditionAccess
  rw [same.editions]

theorem findLauncherSession_eq {token : String}
    (found : (first.launcherSessions.search fun stored =>
        stored.session.accessToken.expose = token) =
      second.launcherSessions.search fun stored => stored.session.accessToken.expose = token) :
    first.findLauncherSession token = second.findLauncherSession token := by
  unfold Document.findLauncherSession
  rw [found, same.productKeys, same.editions]

end SameRecords

structure Agrees (first second : Document) : Prop extends SameRecords first second where
  listProductKeys : first.listProductKeys = second.listProductKeys
  findProductKey : first.findProductKey = second.findProductKey
  searchSession : ∀ token,
    (first.launcherSessions.search fun stored => stored.session.accessToken.expose = token) =
      second.launcherSessions.search fun stored => stored.session.accessToken.expose = token

namespace Agrees

variable {first second : Document} (agrees : first.Agrees second)
include agrees

theorem trans {third : Document} (agreesToo : second.Agrees third) : first.Agrees third where
  editions := agrees.editions.trans agreesToo.editions
  games := agrees.games.trans agreesToo.games
  isAdmin := agrees.isAdmin.trans agreesToo.isAdmin
  gameRole := agrees.gameRole.trans agreesToo.gameRole
  productKeys := agrees.productKeys.trans agreesToo.productKeys
  listProductKeys := agrees.listProductKeys.trans agreesToo.listProductKeys
  findProductKey := agrees.findProductKey.trans agreesToo.findProductKey
  searchSession token := (agrees.searchSession token).trans (agreesToo.searchSession token)

end Agrees

section Rearranged

variable {first second : Document} (same : first.content = second.content)
include same

theorem perm_productKeys_of_content :
    first.productKeys.entries.Perm second.productKeys.entries :=
  Table.perm_of_get? (congrArg Content.productKeys same)

theorem perm_launcherSessions_of_content :
    first.launcherSessions.entries.Perm second.launcherSessions.entries :=
  Table.perm_of_get? (congrArg Content.launcherSessions same)

theorem sameRecords_of_content : first.SameRecords second where
  editions := congrArg Content.editions same
  games := congrArg Content.games same
  isAdmin := by
    have sameAdmins : first.admins = second.admins := congrArg Content.admins same
    funext user
    rw [isAdmin, isAdmin, sameAdmins]
  gameRole := by
    have ofContent (document : Document) (game : GameId) (user : UserId) :
        document.gameRole game user = (document.content.gameRoles game).bind (· user) := by
      simp only [content, Option.bind_map]
      rfl
    funext game user
    rw [ofContent, ofContent, same]
  productKeys := congrArg Content.productKeys same

end Rearranged

def DistinctTexts (document : Document) : Prop :=
  (document.productKeys.values.map fun stored => stored.productKey.key.expose).Nodup

/-- The order of the tables plays no part in the answers. -/
theorem agrees_of_content {first second : Document} (same : first.content = second.content)
    (texts : first.DistinctTexts) (tokens : Access.DistinctTokens first)
    (keyed : first.productKeys.Keyed (·.productKey.id)) : first.Agrees second where
  toSameRecords := sameRecords_of_content same
  listProductKeys := by
    have rearranged := (perm_productKeys_of_content same).symm
    funext edition statuses
    exact (listProductKeys_of_perm keyed rearranged edition statuses).symm
  findProductKey := by
    funext text
    exact congrArg (·.map StoredKey.productKey)
      (Table.search_of_perm texts (perm_productKeys_of_content same) text)
  searchSession := Table.search_of_perm tokens (perm_launcherSessions_of_content same)

section Order

variable {document : Document}

end Order

end Document

/-- Two repositories of which every operation that only reads returns the same. -/
structure Repository.ReadsAlike (first second : Repository) : Prop where
  getEdition : first.getEdition = second.getEdition
  getGame : first.getGame = second.getGame
  isAdmin : first.isAdmin = second.isAdmin
  gameRole : first.gameRole = second.gameRole
  gameManagers : first.gameManagers = second.gameManagers
  hasEditionAccess : first.hasEditionAccess = second.hasEditionAccess
  listProductKeys : first.listProductKeys = second.listProductKeys
  getProductKey : first.getProductKey = second.getProductKey
  findProductKey : first.findProductKey = second.findProductKey
  findLauncherSession : first.findLauncherSession = second.findLauncherSession

theorem Repository.answer_congr {Value : Type} {first second : Document} {faults : Faults}
    {operation : Operation} {question : Document → Value}
    (same : question first = question second) :
    (Repository.mk first faults).answer operation question =
      (Repository.mk second faults).answer operation question := by
  unfold answer
  rw [same]

theorem Document.Agrees.readsAlike {first second : Document} (agrees : first.Agrees second)
    (faults : Faults) : (Repository.mk first faults).ReadsAlike ⟨second, faults⟩ where
  getEdition := funext fun id => Repository.answer_congr (congrFun agrees.editions id)
  getGame := funext fun id => Repository.answer_congr (congrFun agrees.games id)
  isAdmin := funext fun user => Repository.answer_congr (congrFun agrees.isAdmin user)
  gameRole := funext₂ fun game user =>
    Repository.answer_congr (congrFun₂ agrees.gameRole game user)
  gameManagers := funext fun game =>
    Repository.answer_congr (congrFun (gameManagers_congr agrees.gameRole) game)
  hasEditionAccess := funext₂ fun edition user =>
    Repository.answer_congr (congrFun₂ agrees.toSameRecords.hasEditionAccess edition user)
  listProductKeys := funext₂ fun edition statuses =>
    Repository.answer_congr (congrFun₂ agrees.listProductKeys edition statuses)
  getProductKey := funext fun id => Repository.answer_congr (congrFun agrees.productKeys id)
  findProductKey := funext fun text => Repository.answer_congr (congrFun agrees.findProductKey text)
  findLauncherSession := funext fun token =>
    Repository.answer_congr
      (agrees.toSameRecords.findLauncherSession_eq (agrees.searchSession token))

end GameCatalog
