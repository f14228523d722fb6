import GameCatalog.Json.Record
import GameCatalog.Proofs.Identifier
import GameCatalog.Proofs.Json.Forms

/-!
Decoders take back what was written for them.  `Recovers` says so of a decoder and a way of
writing; `Record.Reads` says it of the description of a record and the members of an object,
and is put together field by field, as the description is.
-/

namespace GameCatalog.Json

variable {Value Other : Type}

/-- The decoder takes back every value that was written. -/
def Recovers (decoder : Decoder Value) (write : Value → Json) : Prop :=
  ∀ value, decoder (write value).toReading = .ok value

section Decoders

theorem recovers_text : Recovers Decoder.text .text :=
  fun _ => rfl

theorem recovers_natural : Recovers Decoder.natural fun value => .natural value.toNat := by
  intro value
  rw [toReading, Numeral.ofNatural_toNat]
  rfl

theorem recovers_identifier {entity : Entity} :
    Recovers (@Decoder.identifier entity) fun id => .text id.toText := by
  intro id
  simp [Decoder.identifier, Decoder.parsed, toReading, Decoder.text, bind, Except.bind, pure,
    Except.pure]

theorem recovers_secret : Recovers Decoder.secret fun secret => .text secret.expose :=
  fun _ => rfl

theorem itemsToReading_eq_map (items : List Json) :
    itemsToReading items = items.map toReading := by
  induction items with
  | nil => rfl
  | cons item items inductionHypothesis => rw [itemsToReading, inductionHypothesis, List.map_cons]

theorem membersToReading_eq_map (members : List (String × Json)) :
    membersToReading members =
      members.map fun member => (.text (.ok member.1) none, member.2.toReading) := by
  induction members with
  | nil => rfl
  | cons member members inductionHypothesis =>
      rw [membersToReading, inductionHypothesis, List.map_cons]

theorem mapM_map {First Second Third : Type} {write : First → Second}
    {read : Second → Except Fault Third} (result : First → Third)
    (each : ∀ item, read (write item) = .ok (result item)) (items : List First) :
    (items.map write).mapM read = .ok (items.map result) := by
  induction items with
  | nil => rfl
  | cons item items inductionHypothesis =>
      rw [List.map_cons, List.mapM_cons, each, inductionHypothesis]
      rfl

theorem recovers_list {decoder : Decoder Value} {write : Value → Json}
    (recovers : Recovers decoder write) :
    Recovers (Decoder.list decoder) fun values => .array (values.map write) := by
  intro values
  have written : toReading ∘ write = fun value => (write value).toReading := rfl
  simp only [toReading, Decoder.list, itemsToReading_eq_map, List.map_map]
  rw [written, mapM_map id recovers values, List.map_id]
  rfl

theorem pairs_toReading {Name : Type} {takeName : String → Option Name}
    {nameOf : Name → String} (taken : ∀ name, takeName (nameOf name) = some name)
    {decoder : Decoder Value} {write : Value → Json} (recovers : Recovers decoder write)
    (entries : List (Name × Value)) :
    Decoder.pairs takeName decoder
        (Json.object (entries.map fun entry => (nameOf entry.1, write entry.2))).toReading =
      .ok entries := by
  simp only [toReading, Decoder.pairs, membersToReading_eq_map, List.map_map]
  rw [mapM_map id]
  · rw [List.map_id]
    rfl
  · rintro ⟨name, value⟩
    simp only [Function.comp, Reading.memberName, bind, Except.bind, taken, recovers value]
    rfl

end Decoders

section Injective

variable {decoder : Decoder Value} {write : Value → Json}

theorem injective_of_run {text : Value → String}
    (reads : ∀ value, decoder.run (Utf8.encode (text value)) = .ok value) :
    Function.Injective text := by
  intro left right same
  have readLeft := reads left
  rw [same, reads right] at readLeft
  exact (Except.ok.inj readLeft).symm

/-- Values that can be taken back have different texts without blanks. -/
theorem Recovers.compact_injective (recovers : Recovers decoder write) :
    Function.Injective fun value => (write value).compact :=
  injective_of_run fun value => run_compact (recovers value)

theorem Recovers.pretty_injective (recovers : Recovers decoder write) :
    Function.Injective fun value => (write value).pretty :=
  injective_of_run fun value => run_pretty (recovers value)

end Injective

namespace Record

def names (record : Record Value) : List String :=
  record.fields.map Prod.fst

def readings (members : List (String × Json)) : Found :=
  members.map fun member => (member.1, member.2.toReading)

/-- The record reads a value from the members of an object. -/
structure Reads (record : Record Value) (members : List (String × Json)) (value : Value) :
    Prop where
  distinct : (members.map Prod.fst).Nodup
  checks : ∀ member ∈ members, ∃ check, record.fields.lookup member.1 = some check ∧
    check member.2.toReading = .ok ()
  builds : ∀ found : Found,
    (∀ name ∈ record.names, found.lookup name = (readings members).lookup name) →
    record.build found = .ok value

section Lookup

theorem lookup_eq_none_of_notMem {Item : Type} {name : String} {entries : List (String × Item)}
    (absent : name ∉ entries.map Prod.fst) : entries.lookup name = none := by
  rw [List.lookup_eq_none_iff]
  intro entry membership
  have different : name ≠ entry.1 := fun same =>
    absent (List.mem_map.mpr ⟨entry, membership, same.symm⟩)
  simpa using different

theorem mem_of_lookup_eq_some {Item : Type} {name : String} {item : Item}
    {entries : List (String × Item)} (found : entries.lookup name = some item) :
    name ∈ entries.map Prod.fst := by
  by_contra absent
  rw [lookup_eq_none_of_notMem absent] at found
  contradiction

theorem map_fst_readings (members : List (String × Json)) :
    (readings members).map Prod.fst = members.map Prod.fst := by
  simp [readings]

end Lookup

section Reads

variable {record : Record Value} {members : List (String × Json)} {value : Value}

theorem Reads.mem_names (reads : record.Reads members value) {name : String}
    (membership : name ∈ members.map Prod.fst) : name ∈ record.names := by
  obtain ⟨member, there, rfl⟩ := List.mem_map.mp membership
  obtain ⟨check, found, -⟩ := reads.checks member there
  exact mem_of_lookup_eq_some found

/-- Members that are fields are found in the order in which they stand. -/
theorem fromMembers_toReading {passOver : Reading → Option Fault}
    {fields : List (String × Decoder Unit)} (found : Found)
    (distinct : (found.map Prod.fst ++ members.map Prod.fst).Nodup)
    (checks : ∀ member ∈ members, ∃ check, fields.lookup member.1 = some check ∧
      check member.2.toReading = .ok ()) :
    fromMembers passOver fields found (membersToReading members) =
      .ok (found ++ readings members) := by
  induction members generalizing found with
  | nil => simp [membersToReading, fromMembers, readings]
  | cons member members inductionHypothesis =>
      obtain ⟨name, item⟩ := member
      obtain ⟨check, isField, passed⟩ := checks (name, item) (by simp)
      have new : found.lookup name = none := by
        apply lookup_eq_none_of_notMem
        intro twice
        exact (List.nodup_append.mp distinct).2.2 name twice name (by simp) rfl
      have later := inductionHypothesis (found ++ [(name, item.toReading)])
        (by simpa using distinct) fun other membership => checks other (by simp [membership])
      simp only [membersToReading, fromMembers, Reading.memberName, isField, new, passed, bind,
        Except.bind, Option.isSome_none, Bool.false_eq_true, if_false, later]
      simp [readings]

theorem Reads.found (reads : record.Reads members value) (passOver : Reading → Option Fault) :
    fromMembers passOver record.fields [] (membersToReading members) = .ok (readings members) := by
  rw [fromMembers_toReading [] (by simpa using reads.distinct) reads.checks, List.nil_append]

/-- A record is read from an object with the members of its value. -/
theorem Reads.decoder_eq_ok (reads : record.Reads members value) :
    record.decoder (Json.object members).toReading = .ok value := by
  simp only [toReading, decoder, reads.found, bind, Except.bind, finish]
  exact reads.builds _ fun _ _ => rfl

theorem Reads.sharedDecoder_eq_ok (reads : record.Reads members value) (depth : Nat) :
    record.sharedDecoder depth (Json.object members).toReading = .ok value := by
  simp only [toReading, sharedDecoder, reads.found, bind, Except.bind, finish]
  exact reads.builds _ fun _ _ => rfl

end Reads

section Fields

variable {decoder : Decoder Value} {json : Json} {value : Value}

theorem reads_required (name : String) (decoded : decoder json.toReading = .ok value) :
    (required name decoder).Reads [(name, json)] value where
  distinct := by simp
  checks := by
    intro member membership
    cases List.mem_singleton.mp membership
    exact ⟨check decoder, by simp [required], by simp [check, decoded, Except.map]⟩
  builds := by
    intro found same
    have here := same name (by simp [names, required])
    simp only [readings, List.map_cons, List.map_nil, List.lookup_cons_self] at here
    simp only [required, here, decoded]

theorem reads_withDefault (name : String) (default : Value)
    (decoded : decoder json.toReading = .ok value) :
    (withDefault name decoder default).Reads [(name, json)] value where
  distinct := by simp
  checks := by
    intro member membership
    cases List.mem_singleton.mp membership
    exact ⟨check decoder, by simp [withDefault], by simp [check, decoded, Except.map]⟩
  builds := by
    intro found same
    have here := same name (by simp [names, withDefault])
    simp only [readings, List.map_cons, List.map_nil, List.lookup_cons_self] at here
    simp only [withDefault, here, decoded]

theorem reads_optional (name : String) {write : Value → Json}
    (recovers : Recovers decoder write) (nonNull : ∀ value, (write value).toReading ≠ .null)
    (value : Option Value) : (optional name decoder).Reads (member? name write value) value := by
  cases value with
  | some value =>
      apply reads_withDefault
      unfold Decoder.nullable
      split
      · rename_i isNull
        exact absurd isNull (nonNull value)
      · rw [recovers value]
        rfl
  | none =>
      refine ⟨by simp [member?], by simp [member?], ?_⟩
      intro found same
      have nothing := same name (by simp [names, optional, withDefault])
      simp only [member?, readings, List.map_nil, List.lookup_nil] at nothing
      simp only [optional, withDefault, nothing]

theorem Reads.map {record : Record Value} {members : List (String × Json)}
    (reads : record.Reads members value) (function : Value → Other) :
    (function <$> record).Reads members (function value) where
  distinct := reads.distinct
  checks := reads.checks
  builds := by
    intro found same
    change (record.build found).map function = _
    rw [reads.builds found same]
    rfl

/-- The fields of two records, no field of which is one of the other. -/
theorem Reads.seq {first : Record (Value → Other)} {second : Record Value}
    {firstMembers secondMembers : List (String × Json)} {function : Value → Other}
    (readsFirst : first.Reads firstMembers function)
    (readsSecond : second.Reads secondMembers value)
    (apart : ∀ name ∈ first.names, name ∉ second.names) :
    (first <*> second).Reads (firstMembers ++ secondMembers) (function value) where
  distinct := by
    rw [List.map_append, List.nodup_append]
    refine ⟨readsFirst.distinct, readsSecond.distinct, ?_⟩
    rintro name inFirst _ inSecond rfl
    exact apart name (readsFirst.mem_names inFirst) (readsSecond.mem_names inSecond)
  checks := by
    intro member membership
    change ∃ check, (first.fields ++ second.fields).lookup member.1 = some check ∧ _
    rw [List.lookup_append]
    rcases List.mem_append.mp membership with inFirst | inSecond
    · obtain ⟨check, found, passed⟩ := readsFirst.checks member inFirst
      exact ⟨check, by simp [found], passed⟩
    · obtain ⟨check, found, passed⟩ := readsSecond.checks member inSecond
      have notFirst : first.fields.lookup member.1 = none := by
        apply lookup_eq_none_of_notMem
        intro isFirst
        exact apart member.1 isFirst
          (readsSecond.mem_names (List.mem_map.mpr ⟨member, inSecond, rfl⟩))
      exact ⟨check, by simp [notFirst, found], passed⟩
  builds := by
    intro found same
    have agree (name : String) (isField : name ∈ first.names ∨ name ∈ second.names) :
        found.lookup name =
          ((readings firstMembers).lookup name).or ((readings secondMembers).lookup name) := by
      have known := same name (by
        change name ∈ (first.fields ++ second.fields).map Prod.fst
        rw [List.map_append]
        exact List.mem_append.mpr isField)
      rwa [readings, List.map_append, List.lookup_append] at known
    have foundFirst : first.build found = .ok function := by
      apply readsFirst.builds
      intro name isFirst
      have absent : (readings secondMembers).lookup name = none := by
        apply lookup_eq_none_of_notMem
        rw [map_fst_readings]
        exact fun inSecond => apart name isFirst (readsSecond.mem_names inSecond)
      rw [agree name (.inl isFirst), absent, Option.or_none]
    have foundSecond : second.build found = .ok value := by
      apply readsSecond.builds
      intro name isSecond
      have absent : (readings firstMembers).lookup name = none := by
        apply lookup_eq_none_of_notMem
        rw [map_fst_readings]
        exact fun inFirst => apart name (readsFirst.mem_names inFirst) isSecond
      rw [agree name (.inr isSecond), absent, Option.none_or]
    change (do return (← first.build found) (← second.build found)) = _
    rw [foundFirst, foundSecond]
    rfl

end Fields

end Record

end GameCatalog.Json
