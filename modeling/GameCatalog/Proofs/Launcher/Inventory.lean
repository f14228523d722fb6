import GameCatalog.Proofs.Launcher.Lifecycle
import GameCatalog.Proofs.Launcher.Listing
import GameCatalog.Proofs.Store.Coherence

/-!
What a list of product keys holds.  As long as every key stands under the identifier that it
carries, the list of an edition has each of its keys with the wanted status once and nothing
else, in the order of their times and identifiers.  So the list does not depend on the order of
the table, and the lists of all editions divide the keys of these editions among themselves.
-/

namespace GameCatalog

theorem Table.Keyed.map_values {Key Value : Type} [DecidableEq Key] {table : Table Key Value}
    {idOf : Value → Key} (keyed : table.Keyed idOf) : table.values.map idOf = table.keys := by
  unfold Table.values Table.keys
  rw [List.map_map]
  apply List.map_congr_left
  intro entry membership
  exact keyed entry.1 entry.2 (Table.get?_eq_some_iff.mpr membership)

namespace Document

/-- The first key is older than the second one, or as old and has the smaller identifier. -/
def Precedes (first second : ProductKey) : Prop :=
  first.createdAt < second.createdAt ∨
    first.createdAt = second.createdAt ∧ first.id.number < second.id.number

instance (first second : ProductKey) : Decidable (Precedes first second) :=
  inferInstanceAs (Decidable (_ ∨ _))

theorem Precedes.asymm {first second : ProductKey} (ahead : Precedes first second) :
    ¬Precedes second first := by
  unfold Precedes at ahead ⊢
  simp only [UInt64.lt_iff_toNat_lt, ← UInt64.toNat_inj, BitVec.lt_def] at ahead ⊢
  omega

theorem eq_of_pairwise_precedes {first second : List ProductKey}
    (firstSorted : first.Pairwise Precedes) (secondSorted : second.Pairwise Precedes)
    (rearranged : first.Perm second) : first = second :=
  rearranged.eq_of_pairwise (fun _ _ _ _ ahead behind => absurd behind ahead.asymm)
    firstSorted secondSorted

theorem precedes_of_inOrder {first second : ProductKey} (ordered : inOrder first second = true)
    (different : (first.createdAt, first.id) ≠ (second.createdAt, second.id)) :
    Precedes first second := by
  have apart : ¬(first.createdAt.toNat = second.createdAt.toNat ∧
      first.id.number.toNat = second.id.number.toNat) := fun ⟨sameTime, sameNumber⟩ =>
    different (Prod.ext (UInt64.toNat_inj.mp sameTime)
      (congrArg Id.mk (BitVec.eq_of_toNat_eq sameNumber)))
  rw [inOrder_iff] at ordered
  unfold Precedes
  simp only [UInt64.lt_iff_toNat_lt, ← UInt64.toNat_inj, BitVec.lt_def, BitVec.le_def] at ordered ⊢
  omega

theorem mergeSort_inOrder_of_perm {first second : List ProductKey}
    (distinct : (first.map fun key => (key.createdAt, key.id)).Nodup)
    (rearranged : first.Perm second) : first.mergeSort inOrder = second.mergeSort inOrder := by
  apply Sorting.mergeSort_eq_of_perm inOrder_trans inOrder_total rearranged
  intro key there other thereToo ahead behind
  apply List.inj_on_of_nodup_map distinct there thereToo
  by_contra different
  have precedes := precedes_of_inOrder ahead different
  exact precedes.asymm (precedes_of_inOrder behind (Ne.symm different))

theorem nodup_order_of_nodup_id {keys : List ProductKey}
    (distinct : (keys.map ProductKey.id).Nodup) :
    (keys.map fun key => (key.createdAt, key.id)).Nodup := by
  apply List.Nodup.of_map Prod.snd
  rw [List.map_map]
  exact distinct

/-- The keys of an edition with one of the given statuses, in the order in which they are stored. -/
def selectedKeys (stored : List StoredKey) (edition : EditionId) (statuses : List KeyStatus) :
    List ProductKey :=
  (stored.filter fun stored =>
    stored.edition = edition && statuses.contains stored.productKey.status).map StoredKey.productKey

theorem selectedKeys_append (front back : List StoredKey) (edition : EditionId)
    (statuses : List KeyStatus) :
    selectedKeys (front ++ back) edition statuses =
      selectedKeys front edition statuses ++ selectedKeys back edition statuses := by
  simp only [selectedKeys, List.filter_append, List.map_append]

theorem nodup_map_id_selectedKeys {stored : List StoredKey}
    (distinct : (stored.map (·.productKey.id)).Nodup) (edition : EditionId)
    (statuses : List KeyStatus) :
    ((selectedKeys stored edition statuses).map ProductKey.id).Nodup := by
  rw [selectedKeys, List.map_map]
  exact distinct.sublist (List.filter_sublist.map _)

theorem listProductKeys_eq_mergeSort (document : Document) (edition : EditionId)
    (statuses : List KeyStatus) :
    document.listProductKeys edition statuses =
      (selectedKeys document.productKeys.values edition statuses).mergeSort inOrder := rfl

variable {document : Document} {edition : EditionId} {statuses : List KeyStatus} {key : ProductKey}

theorem listProductKeys_perm (document : Document) (edition : EditionId)
    (statuses : List KeyStatus) :
    (document.listProductKeys edition statuses).Perm
      (selectedKeys document.productKeys.values edition statuses) :=
  List.mergeSort_perm _ _

theorem mem_listProductKeys_iff :
    key ∈ document.listProductKeys edition statuses ↔
      (∃ id, document.productKeys.get? id = some ⟨edition, key⟩) ∧ key.status ∈ statuses := by
  rw [(listProductKeys_perm document edition statuses).mem_iff]
  simp only [selectedKeys, List.mem_map, List.mem_filter, Table.mem_values_iff,
    Bool.and_eq_true, decide_eq_true_eq, List.contains_iff_mem]
  constructor
  · rintro ⟨⟨_, _⟩, ⟨there, rfl, wanted⟩, rfl⟩
    exact ⟨there, wanted⟩
  · rintro ⟨there, wanted⟩
    exact ⟨⟨edition, key⟩, ⟨there, rfl, wanted⟩, rfl⟩

section Keyed

variable (keyed : document.productKeys.Keyed (·.productKey.id))
include keyed

theorem nodup_map_id_values : (document.productKeys.values.map (·.productKey.id)).Nodup := by
  rw [keyed.map_values]
  exact document.productKeys.distinct

theorem nodup_map_id_listProductKeys (edition : EditionId) (statuses : List KeyStatus) :
    ((document.listProductKeys edition statuses).map ProductKey.id).Nodup := by
  rw [((listProductKeys_perm document edition statuses).map ProductKey.id).nodup_iff]
  exact nodup_map_id_selectedKeys (nodup_map_id_values keyed) edition statuses

/-- A list of keys is in strict order, for no two keys have the same identifier. -/
theorem pairwise_listProductKeys (edition : EditionId) (statuses : List KeyStatus) :
    (document.listProductKeys edition statuses).Pairwise Precedes := by
  have distinct := nodup_map_id_listProductKeys keyed edition statuses
  have sorted : (document.listProductKeys edition statuses).Pairwise fun first second =>
      inOrder first second = true :=
    List.pairwise_mergeSort inOrder_trans inOrder_total _
  rw [List.Nodup, List.pairwise_map] at distinct
  exact sorted.imp₂ (fun _ _ ordered different =>
    precedes_of_inOrder ordered fun same => different (Prod.ext_iff.mp same).2) distinct

theorem listProductKeys_of_perm {table : Table ProductKeyId StoredKey}
    (rearranged : table.entries.Perm document.productKeys.entries) (edition : EditionId)
    (statuses : List KeyStatus) :
    Document.listProductKeys { document with productKeys := table } edition statuses =
      document.listProductKeys edition statuses := by
  apply Eq.symm
  apply mergeSort_inOrder_of_perm
  · exact nodup_order_of_nodup_id
      (nodup_map_id_selectedKeys (nodup_map_id_values keyed) edition statuses)
  · exact (((rearranged.map Prod.snd).filter _).map _).symm

theorem listProductKeys_eq_filter (edition : EditionId) (status : KeyStatus) :
    document.listProductKeys edition [status] =
      (document.listProductKeys edition [.active, .inactive]).filter (·.status = status) := by
  apply eq_of_pairwise_precedes
  · exact pairwise_listProductKeys keyed _ _
  · exact (pairwise_listProductKeys keyed _ _).filter _
  · refine (listProductKeys_perm _ _ _).trans (.trans (.of_eq ?_)
      ((listProductKeys_perm _ _ _).filter _).symm)
    rw [selectedKeys, selectedKeys, List.filter_map, List.filter_filter]
    congr 2
    funext ⟨owner, key⟩
    simp only [Function.comp_apply]
    cases key.status <;> cases status <;> simp

theorem disjoint_listProductKeys {first second : EditionId} (different : first ≠ second)
    (statuses : List KeyStatus) :
    (document.listProductKeys first statuses).Disjoint
      (document.listProductKeys second statuses) := by
  intro key inFirst inSecond
  obtain ⟨⟨id, there⟩, -⟩ := mem_listProductKeys_iff.mp inFirst
  obtain ⟨⟨other, thereToo⟩, -⟩ := mem_listProductKeys_iff.mp inSecond
  have own : key.id = id := keyed id _ there
  have ownToo : key.id = other := keyed other _ thereToo
  rw [← own, ownToo, thereToo] at there
  cases there
  exact different rfl

theorem flatMap_listProductKeys_perm :
    (document.editions.keys.flatMap fun edition =>
        document.listProductKeys edition [.active, .inactive]).Perm
      ((document.productKeys.values.filter fun stored =>
        (document.editions.get? stored.edition).isSome).map StoredKey.productKey) := by
  have distinctKeys : (document.productKeys.values.map StoredKey.productKey).Nodup := by
    apply List.Nodup.of_map ProductKey.id
    rw [List.map_map]
    exact keyed.map_values ▸ document.productKeys.distinct
  rw [List.perm_ext_iff_of_nodup]
  · intro key
    simp only [List.mem_flatMap, mem_listProductKeys_iff, List.mem_map, List.mem_filter,
      Table.mem_values_iff]
    constructor
    · rintro ⟨edition, known, there, -⟩
      refine ⟨⟨edition, key⟩, ⟨there, ?_⟩, rfl⟩
      rw [Option.isSome_iff_ne_none, ne_eq, Table.get?_eq_none_iff, not_not]
      exact known
    · rintro ⟨⟨edition, _⟩, ⟨there, known⟩, rfl⟩
      rw [Option.isSome_iff_ne_none, ne_eq, Table.get?_eq_none_iff, not_not] at known
      refine ⟨edition, known, there, ?_⟩
      cases (_ : ProductKey).status <;> simp
  · rw [List.nodup_flatMap]
    refine ⟨fun edition _ => ?_, ?_⟩
    · exact (nodup_map_id_listProductKeys keyed edition _).of_map
    · exact document.editions.distinct.imp fun different =>
        disjoint_listProductKeys keyed different _
  · exact distinctKeys.sublist (List.filter_sublist.map _)

end Keyed

end Document

namespace Launcher

open Job

theorem mem_shown_iff {status : Option KeyStatus} {given : KeyStatus} :
    given ∈ shown status ↔ ∀ wanted, status = some wanted → given = wanted := by
  cases status with
  | none => cases given <;> simp [shown]
  | some status => simp [shown]

/--
What listing product keys returns, for every document in which keys stand under the identifiers
that they carry, as long as it can be read.  An edition that is not there has no list.  The list
of any other edition has each of its keys with the wanted status once and nothing else, in the
strict order of times and identifiers; it is the same list in whatever order the table is; and the
list of one status is the part of the whole list that has this status.  The whole lists of all
editions divide the keys of these editions among themselves.
-/
theorem listKeys_exact (world : World) (reads : world.faults .getEdition = none)
    (lists : world.faults .listProductKeys = none)
    (keyed : world.store.live.productKeys.Keyed (·.productKey.id)) :
    let document := world.store.live
    let listing := fun edition status => document.listProductKeys edition (shown status)
    (∀ edition status,
      (document.editions.get? edition = none →
        (exec (listKeys edition status) world).1 = .error (.invalidEdition edition)) ∧
      ((document.editions.get? edition).isSome = true →
        (exec (listKeys edition status) world).1 = .ok (listing edition status)) ∧
      (∀ key, key ∈ listing edition status ↔
        (∃ id, document.productKeys.get? id = some ⟨edition, key⟩) ∧
          ∀ wanted, status = some wanted → key.status = wanted) ∧
      (listing edition status).Nodup ∧
      (listing edition status).Pairwise Document.Precedes ∧
      ∀ table : Table ProductKeyId StoredKey, table.entries.Perm document.productKeys.entries →
        (exec (listKeys edition status) {
          world with store.live := { document with productKeys := table } }).1 =
            (exec (listKeys edition status) world).1) ∧
    (∀ edition wanted, listing edition (some wanted) =
      (listing edition none).filter (·.status = wanted)) ∧
    (∀ first second, first ≠ second → (listing first none).Disjoint (listing second none)) ∧
    (document.editions.keys.flatMap fun edition => listing edition none).Perm
      ((document.productKeys.values.filter fun stored =>
        (document.editions.get? stored.edition).isSome).map StoredKey.productKey) := by
  intro document listing
  refine ⟨fun edition status => ⟨?_, ?_, ?_, ?_, ?_, ?_⟩, ?_, ?_, ?_⟩
  · intro missing
    rw [exec_listKeys]
    simp [Repository.getEdition, Repository.answer, World.repository, reads, missing, document,
      Except.mapError]
  · exact exec_listKeys_of_works reads lists
  · intro key
    rw [Document.mem_listProductKeys_iff, mem_shown_iff]
  · exact (Document.nodup_map_id_listProductKeys keyed edition _).of_map
  · exact Document.pairwise_listProductKeys keyed edition _
  · intro table rearranged
    apply listKeys_congr
    · rfl
    · rfl
    · exact Document.listProductKeys_of_perm keyed rearranged edition _
  · exact Document.listProductKeys_eq_filter keyed
  · intro first second different
    exact Document.disjoint_listProductKeys keyed different _
  · exact Document.flatMap_listProductKeys_perm keyed

def eldestKey : ProductKey := ⟨⟨8⟩, ⟨""⟩, .active, 4⟩

def middleKey : ProductKey := ⟨⟨9⟩, ⟨""⟩, .inactive, 4⟩

def youngestKey : ProductKey := ⟨⟨7⟩, ⟨""⟩, .active, 5⟩

def strayKey : ProductKey := ⟨⟨6⟩, ⟨""⟩, .active, 1⟩

def shelved : World := {
  stocked with
  store.live := {
    editions := ⟨[(⟨1⟩, ⟨⟨1⟩, "", none, [], [], 0⟩), (⟨2⟩, ⟨⟨2⟩, "", none, [], [], 0⟩)], by decide⟩
    productKeys := ⟨[(⟨7⟩, ⟨⟨1⟩, youngestKey⟩), (⟨9⟩, ⟨⟨1⟩, middleKey⟩), (⟨8⟩, ⟨⟨1⟩, eldestKey⟩),
      (⟨6⟩, ⟨⟨3⟩, strayKey⟩)], by decide⟩ } }

/-- The keys of the first edition are listed in order, the second edition has none. -/
theorem listKeys_exact_shelved :
    (exec (listKeys ⟨1⟩ none) shelved).1 = .ok [eldestKey, middleKey, youngestKey] ∧
      (exec (listKeys ⟨1⟩ (some .active)) shelved).1 = .ok [eldestKey, youngestKey] ∧
      (exec (listKeys ⟨2⟩ none) shelved).1 = .ok [] ∧
      (exec (listKeys ⟨3⟩ none) shelved).1 = .error (.invalidEdition ⟨3⟩) := by
  have own : ∀ entry ∈ shelved.store.live.productKeys.entries, entry.2.productKey.id = entry.1 := by
    decide
  have keyed : shelved.store.live.productKeys.Keyed (·.productKey.id) := fun id stored found =>
    own (id, stored) (Table.get?_eq_some_iff.mp found)
  obtain ⟨listing, parts, -⟩ := listKeys_exact shelved rfl rfl keyed
  obtain ⟨-, returned, -, -, sorted, -⟩ := listing ⟨1⟩ none
  obtain ⟨-, returnedActive, -⟩ := listing ⟨1⟩ (some .active)
  obtain ⟨-, returnedNone, -⟩ := listing ⟨2⟩ none
  have all : shelved.store.live.listProductKeys ⟨1⟩ (shown none) =
      [eldestKey, middleKey, youngestKey] :=
    Document.eq_of_pairwise_precedes sorted (by decide)
      ((Document.listProductKeys_perm _ _ _).trans (by decide))
  refine ⟨(returned rfl).trans (congrArg Except.ok all), (returnedActive rfl).trans ?_,
    (returnedNone rfl).trans ?_, (listing ⟨3⟩ none).1 rfl⟩
  · exact congrArg Except.ok ((parts ⟨1⟩ .active).trans (congrArg (List.filter _) all))
  · exact congrArg Except.ok ((Document.listProductKeys_perm _ _ _).trans (by decide)).eq_nil

end Launcher

end GameCatalog
