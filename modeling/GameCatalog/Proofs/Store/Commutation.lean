import GameCatalog.Proofs.Store.Agreement
import GameCatalog.Proofs.Store.Amendment

/-!
Mutations in either order.  Two mutations that touch different records, and do not put in the same
text or token, can be made in either order: each returns the same, and the stores that they lead to
give the same answers.  Their tables may list the new records in different orders, but no question
tells these orders apart.
-/

namespace GameCatalog

namespace Document

variable {first second : Document} {old left right : List (ProductKeyId × StoredKey)}

theorem listProductKeys_of_turned (straight : first.productKeys.entries = old ++ (left ++ right))
    (turned : second.productKeys.entries = old ++ (right ++ left))
    (own : ∀ entry ∈ left ++ right, entry.2.productKey.id = entry.1) :
    first.listProductKeys = second.listProductKeys := by
  have distinctKeys : ((left ++ right).map Prod.fst).Nodup := by
    have distinctAll := first.productKeys.distinct
    rw [straight, List.map_append] at distinctAll
    exact (List.nodup_append.mp distinctAll).2.1
  have distinctIds : (((left ++ right).map Prod.snd).map (·.productKey.id)).Nodup := by
    rw [List.map_map]
    exact (List.map_congr_left own).symm ▸ distinctKeys
  funext edition statuses
  rw [listProductKeys_eq_mergeSort, listProductKeys_eq_mergeSort, Table.values, Table.values,
    straight, turned, List.map_append, @List.map_append _ _ _ old, selectedKeys_append,
    selectedKeys_append, Sorting.mergeSort_append inOrder_trans inOrder_total,
    Sorting.mergeSort_append inOrder_trans inOrder_total]
  congr 1
  apply mergeSort_inOrder_of_perm
    (nodup_order_of_nodup_id (nodup_map_id_selectedKeys distinctIds edition statuses))
  rw [List.map_append, List.map_append, selectedKeys_append, selectedKeys_append]
  exact List.perm_append_comm

end Document

namespace Store

/-- Two mutations that touch different records, and do not put in the same text or token. -/
structure Mutation.Independent (first second : Mutation) : Prop where
  records : first.touched.Disjoint second.touched
  texts : first.texts.Disjoint second.texts
  tokens : first.tokens.Disjoint second.tokens

namespace Mutation

instance (first second : Mutation) : Decidable (first.Independent second) :=
  decidable_of_iff
    ((∀ record ∈ first.touched, record ∉ second.touched) ∧
      (∀ text ∈ first.texts, text ∉ second.texts) ∧ ∀ token ∈ first.tokens, token ∉ second.tokens)
    ⟨fun ⟨records, texts, tokens⟩ => ⟨records, texts, tokens⟩,
      fun independent => ⟨independent.records, independent.texts, independent.tokens⟩⟩

variable {first second : Mutation}

theorem Independent.symm (independent : first.Independent second) : second.Independent first where
  records := List.disjoint_symm independent.records
  texts := List.disjoint_symm independent.texts
  tokens := List.disjoint_symm independent.tokens

variable (independent : first.Independent second)
include independent

theorem Independent.apart {Key : Type} {firstKeys secondKeys : List Key} (record : Key → Record)
    (inFirst : ∀ key ∈ firstKeys, record key ∈ first.touched)
    (inSecond : ∀ key ∈ secondKeys, record key ∈ second.touched) :
    firstKeys.Disjoint secondKeys := fun key membership membershipToo =>
  independent.records (inFirst key membership) (inSecond key membershipToo)

theorem games_amended_amended (document : Document) :
    (second.amended (first.amended document)).games =
      (document.games.insertAll (first.games document)).insertAll (second.games document) := by
  rw [← games_amended independent.records document]
  rfl

theorem productKeys_amended_amended (document : Document) :
    (second.amended (first.amended document)).productKeys =
      (document.productKeys.insertAll (first.productKeys document)).insertAll
        (second.productKeys document) := by
  rw [← productKeys_amended independent.records document]
  rfl

theorem gameRole_amended_comm (document : Document) :
    (second.amended (first.amended document)).gameRole =
      (first.amended (second.amended document)).gameRole := by
  have apart := independent.apart (fun key : GameId × UserId => .role key.1 key.2)
    roles_touched roles_touched
  funext game user
  rw [gameRole_amended, gameRole_amended, gameRole_amended, gameRole_amended, ← Option.or_assoc,
    ← Option.or_assoc, Table.or_comm_of_apart (Table.get?_ofList_apart apart (game, user))]

theorem findProductKey_amended_comm (document : Document) :
    (second.amended (first.amended document)).findProductKey =
      (first.amended (second.amended document)).findProductKey := by
  have apart := independent.apart .productKey
    (@productKeys_touched first document) (@productKeys_touched second document)
  funext text
  unfold Document.findProductKey
  rw [productKeys_amended_amended independent, productKeys_amended_amended independent.symm]
  congr 1
  apply Table.search_insertAll_comm apart
  intro entry inFirst new found other inSecond newToo
  apply decide_eq_false
  intro foundToo
  have ofFirst := (productKeys_new inFirst new).2
  have ofSecond := (productKeys_new inSecond newToo).2
  rw [of_decide_eq_true found] at ofFirst
  rw [foundToo] at ofSecond
  exact independent.texts ofFirst ofSecond

theorem searchSession_amended_comm (document : Document) (token : String) :
    ((second.amended (first.amended document)).launcherSessions.search fun stored =>
        stored.session.accessToken.expose = token) =
      (first.amended (second.amended document)).launcherSessions.search fun stored =>
        stored.session.accessToken.expose = token := by
  have apart := independent.apart .launcherSession launcherSessions_touched launcherSessions_touched
  apply Table.search_insertAll_comm apart
  intro entry inFirst new found other inSecond newToo
  apply decide_eq_false
  intro foundToo
  have ofFirst := launcherSessions_new inFirst
  have ofSecond := launcherSessions_new inSecond
  rw [of_decide_eq_true found] at ofFirst
  rw [foundToo] at ofSecond
  exact independent.tokens ofFirst ofSecond

theorem listProductKeys_amended_comm (document : Document) :
    (second.amended (first.amended document)).listProductKeys =
      (first.amended (second.amended document)).listProductKeys := by
  have apart := independent.apart .productKey
    (@productKeys_touched first document) (@productKeys_touched second document)
  obtain ⟨old, left, right, straight, turned, fromFirst, fromSecond⟩ :=
    Table.exists_entries_insertAll_insertAll apart document.productKeys
  rw [← productKeys_amended_amended independent] at straight
  rw [← productKeys_amended_amended independent.symm] at turned
  apply Document.listProductKeys_of_turned straight turned
  intro entry membership
  rcases List.mem_append.mp membership with inLeft | inRight
  · obtain ⟨inFirst, new⟩ := fromFirst entry inLeft
    exact (productKeys_new inFirst new).1
  · obtain ⟨inSecond, new⟩ := fromSecond entry inRight
    exact (productKeys_new inSecond new).1

theorem agrees_amended (document : Document) :
    (second.amended (first.amended document)).Agrees
      (first.amended (second.amended document)) where
  editions :=
    Table.get?_insertAll_comm (independent.apart .edition editions_touched editions_touched) _
  games := by
    have apart := independent.apart .game
      (@games_touched first document) (@games_touched second document)
    rw [games_amended_amended independent, games_amended_amended independent.symm]
    exact Table.get?_insertAll_comm apart _
  isAdmin := by
    funext user
    rw [isAdmin_amended, isAdmin_amended, isAdmin_amended, isAdmin_amended, Bool.or_left_comm]
  gameRole := gameRole_amended_comm independent document
  productKeys := by
    have apart := independent.apart .productKey
      (@productKeys_touched first document) (@productKeys_touched second document)
    rw [productKeys_amended_amended independent, productKeys_amended_amended independent.symm]
    exact Table.get?_insertAll_comm apart _
  listProductKeys := listProductKeys_amended_comm independent document
  findProductKey := findProductKey_amended_comm independent document
  searchSession := searchSession_amended_comm independent document

end Mutation

/-- Two mutations, one after the other, end well and return what they return. -/
def InTurn (store : Store) (first second : Mutation) (firstResult : first.Result)
    (secondResult : second.Result) (after : Store) : Prop :=
  ∃ between, first.run store = (.ok firstResult, between) ∧
    second.run between = (.ok secondResult, after)

section Commutation

variable {store after : Store} {first second : Mutation} {firstResult : first.Result}
  {secondResult : second.Result}

theorem inTurn_iff (independent : first.Independent second) (firstEdits : ¬first.Sweeps)
    (secondEdits : ¬second.Sweeps) :
    store.InTurn first second firstResult secondResult after ↔
      first.answer store.live = .ok firstResult ∧ second.answer store.live = .ok secondResult ∧
        store.disk.refusal? = none ∧
        after = store.written (second.amended (first.amended store.live)) := by
  have sameAnswer := Mutation.answer_amended independent.records secondEdits store.live
  constructor
  · rintro ⟨_, ranFirst, ranSecond⟩
    obtain ⟨answeredFirst, accepts, rfl⟩ := (Mutation.run_eq_ok_iff firstEdits).mp ranFirst
    obtain ⟨answeredSecond, -, rfl⟩ := (Mutation.run_eq_ok_iff secondEdits).mp ranSecond
    exact ⟨answeredFirst, sameAnswer ▸ answeredSecond, accepts, rfl⟩
  · rintro ⟨answeredFirst, answeredSecond, accepts, rfl⟩
    refine ⟨_, (Mutation.run_eq_ok_iff firstEdits).mpr ⟨answeredFirst, accepts, rfl⟩, ?_⟩
    apply (Mutation.run_eq_ok_iff secondEdits).mpr
    exact ⟨sameAnswer.trans answeredSecond, accepts_written accepts _, rfl⟩

/--
Mutations that touch different records, and do not put in the same text or token, can be made in
either order, from every store.  They end well one after the other if each of them does by itself;
then they end well in the other order too, each returns the same, and the stores that they lead to
give the same answers to whatever is asked.  If no text and no token is there twice and keys stand
under their own identifiers, that holds in whatever order the tables are kept.
-/
theorem inTurn_comm (store : Store) (independent : first.Independent second)
    (firstEdits : ¬first.Sweeps) (secondEdits : ¬second.Sweeps) (firstResult : first.Result)
    (secondResult : second.Result) :
    ((∃ after, store.InTurn first second firstResult secondResult after) ↔
      (∃ after, first.run store = (.ok firstResult, after)) ∧
        ∃ after, second.run store = (.ok secondResult, after)) ∧
    ∀ after, store.InTurn first second firstResult secondResult after →
      ∃ other, store.InTurn second first secondResult firstResult other ∧
        (∀ faults, (Repository.mk after.live faults).ReadsAlike ⟨other.live, faults⟩) ∧
        (other.live.DistinctTexts → Access.DistinctTokens other.live →
          other.live.productKeys.Keyed (·.productKey.id) →
          ∀ arranged : Document, other.live.content = arranged.content →
            ∀ faults, (Repository.mk after.live faults).ReadsAlike ⟨arranged, faults⟩) := by
  constructor
  · simp only [inTurn_iff independent firstEdits secondEdits, Mutation.run_eq_ok_iff firstEdits,
      Mutation.run_eq_ok_iff secondEdits, exists_and_left, exists_eq, and_true]
    tauto
  · intro after inTurn
    obtain ⟨answeredFirst, answeredSecond, accepts, rfl⟩ :=
      (inTurn_iff independent firstEdits secondEdits).mp inTurn
    have agrees := Mutation.agrees_amended independent store.live
    refine ⟨store.written (first.amended (second.amended store.live)), ?_, agrees.readsAlike, ?_⟩
    · apply (inTurn_iff independent.symm secondEdits firstEdits).mpr
      exact ⟨answeredSecond, answeredFirst, accepts, rfl⟩
    · intro texts tokens keyed arranged same
      exact (agrees.trans (Document.agrees_of_content same texts tokens keyed)).readsAlike

end Commutation

section Issuing

open Launcher (stocked)

def outerKeys : Mutation :=
  .saveProductKeys ⟨1⟩ [⟨⟨9⟩, ⟨"a"⟩, .active, 4⟩, ⟨⟨7⟩, ⟨"c"⟩, .inactive, 6⟩]

def innerKey : Mutation := .saveProductKeys ⟨1⟩ [⟨⟨8⟩, ⟨"b"⟩, .active, 5⟩]

/-- The keys stand in different orders, but are listed and found alike. -/
theorem inTurn_comm_stocked :
    outerKeys.Independent innerKey ∧ ¬outerKeys.Sweeps ∧ ¬innerKey.Sweeps ∧
      ∃ after other, stocked.store.InTurn outerKeys innerKey () () after ∧
        stocked.store.InTurn innerKey outerKeys () () other ∧
        after.live.productKeys.keys = [⟨9⟩, ⟨7⟩, ⟨8⟩] ∧
        other.live.productKeys.keys = [⟨8⟩, ⟨9⟩, ⟨7⟩] ∧
        ∀ faults, (Repository.mk after.live faults).ReadsAlike ⟨other.live, faults⟩ := by
  have independent : outerKeys.Independent innerKey := by decide
  have outerEdits : ¬outerKeys.Sweeps := not_false
  have innerEdits : ¬innerKey.Sweeps := not_false
  obtain ⟨both, turn⟩ := inTurn_comm stocked.store independent outerEdits innerEdits () ()
  obtain ⟨after, inTurn⟩ := both.mpr ⟨⟨_, rfl⟩, ⟨_, rfl⟩⟩
  obtain ⟨other, turned, alike, -⟩ := turn after inTurn
  refine ⟨independent, outerEdits, innerEdits, after, other, inTurn, turned, ?_, ?_, alike⟩
  · rw [((inTurn_iff independent outerEdits innerEdits).mp inTurn).2.2.2]
    rfl
  · rw [((inTurn_iff independent.symm innerEdits outerEdits).mp turned).2.2.2]
    rfl

end Issuing

end Store

end GameCatalog
