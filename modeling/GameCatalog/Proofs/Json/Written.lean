import GameCatalog.Proofs.Json.Numeral
import GameCatalog.Proofs.Json.Quoted
import GameCatalog.Json.Reading
import Mathlib.Data.List.DropRight

/-!
Reading back what was written.  `Writes` says which octets are a written form of a value;
blanks may stand between the parts, so that it covers the compact and the indented form.  A
value is read from any of its written forms, whatever follows, as long as a number is not
continued by what follows.
-/

namespace GameCatalog.Json

open Utf8

mutual

def toReading : Json → Reading
  | null => .null
  | bool value => .bool value
  | natural value => .number (.ofNatural value)
  | text value => .text (.ok value) none
  | array items => .array (itemsToReading items) none
  | object members => .object (membersToReading members) none

def itemsToReading : List Json → List Reading
  | [] => []
  | item :: items => item.toReading :: itemsToReading items

def membersToReading : List (String × Json) → List (Reading × Reading)
  | [] => []
  | (name, member) :: members => (.text (.ok name) none, member.toReading) ::
      membersToReading members

end

def isBlank (octet : UInt8) : Bool :=
  octet == 0x20 || octet == 0x0A || octet == 0x0D || octet == 0x09

def Blanks (octets : Bytes) : Prop :=
  ∀ octet ∈ octets, isBlank octet = true

mutual

/-- The octets are a written form of the value. -/
inductive Writes : Json → Bytes → Prop where
  | null : Writes .null [0x6E, 0x75, 0x6C, 0x6C]
  | yes : Writes (.bool true) [0x74, 0x72, 0x75, 0x65]
  | no : Writes (.bool false) [0x66, 0x61, 0x6C, 0x73, 0x65]
  | natural (value : Nat) : Writes (.natural value) (encodeChars (Ascii.decimal value))
  | text (value : String) : Writes (.text value) (encodeChars (quote value))
  | noItems : Writes (.array []) [0x5B, 0x5D]
  | array {items : List Json} {octets : Bytes} (inside : WritesItems items octets) :
      Writes (.array items) (0x5B :: octets)
  | noMembers : Writes (.object []) [0x7B, 0x7D]
  | object {members : List (String × Json)} {octets : Bytes}
      (inside : WritesMembers members octets) : Writes (.object members) (0x7B :: octets)

/-- The octets are a written form of items, up to the closing bracket. -/
inductive WritesItems : List Json → Bytes → Prop where
  | last {item : Json} {octets before after : Bytes} (blanksBefore : Blanks before)
      (blanksAfter : Blanks after) (written : Writes item octets) :
      WritesItems [item] (before ++ octets ++ (after ++ [0x5D]))
  | more {item : Json} {items : List Json} {octets before after rest : Bytes}
      (blanksBefore : Blanks before) (blanksAfter : Blanks after) (written : Writes item octets)
      (others : WritesItems items rest) :
      WritesItems (item :: items) (before ++ octets ++ (after ++ 0x2C :: rest))

/-- The octets are a written form of members, up to the closing brace. -/
inductive WritesMembers : List (String × Json) → Bytes → Prop where
  | last {name : String} {member : Json} {octets before between after : Bytes}
      (blanksBefore : Blanks before) (blanksBetween : Blanks between)
      (blanksAfter : Blanks after) (written : Writes member octets) :
      WritesMembers [(name, member)]
        (before ++ encodeChars (quote name) ++ 0x3A :: (between ++ octets ++ (after ++ [0x7D])))
  | more {name : String} {member : Json} {members : List (String × Json)}
      {octets before between after rest : Bytes} (blanksBefore : Blanks before)
      (blanksBetween : Blanks between) (blanksAfter : Blanks after)
      (written : Writes member octets) (others : WritesMembers members rest) :
      WritesMembers ((name, member) :: members)
        (before ++ encodeChars (quote name) ++
          0x3A :: (between ++ octets ++ (after ++ 0x2C :: rest)))

end

section Blanks

variable {blanks octets rest : Bytes}

theorem Blanks.nil : Blanks [] :=
  fun _ membership => absurd membership List.not_mem_nil

theorem skipBlanks_append (areBlanks : Blanks blanks) :
    Reading.skipBlanks (blanks ++ rest) = Reading.skipBlanks rest :=
  List.dropWhile_append_of_pos areBlanks

theorem skipBlanks_cons {octet : UInt8} (noBlank : isBlank octet = false) :
    Reading.skipBlanks (octet :: rest) = octet :: rest :=
  List.dropWhile_cons_of_neg (Bool.eq_false_iff.mp noBlank)

theorem skipBlanks_skipBlanks (octets : Bytes) :
    Reading.skipBlanks (Reading.skipBlanks octets) = Reading.skipBlanks octets :=
  List.dropWhile_idempotent _ _

theorem isBlank_of_isDigit {octet : UInt8} (digit : Ascii.isDigit octet = true) :
    isBlank octet = false := by
  cases blank : isBlank octet with
  | false => rfl
  | true =>
      simp only [isBlank, Bool.or_eq_true, beq_iff_eq] at blank
      rcases blank with ((rfl | rfl) | rfl) | rfl <;> contradiction

/-- A number does not go on beyond blanks or a sign of punctuation. -/
theorem endsNumber_append (areBlanks : Blanks blanks) (ends : Numeral.EndsNumber rest) :
    Numeral.EndsNumber (blanks ++ rest) := by
  cases blanks with
  | nil => exact ends
  | cons octet blanks =>
      have blank := areBlanks octet (by simp)
      simp only [isBlank, Bool.or_eq_true, beq_iff_eq] at blank
      intro first membership
      cases membership
      rcases blank with ((rfl | rfl) | rfl) | rfl <;> decide

theorem endsNumber_cons {octet : UInt8}
    (punctuation : octet = 0x2C ∨ octet = 0x5D ∨ octet = 0x7D) :
    Numeral.EndsNumber (octet :: rest) := by
  intro first membership
  cases membership
  rcases punctuation with rfl | rfl | rfl <;> decide

end Blanks

/-- A value is not written with a blank or a closing bracket in front. -/
theorem Writes.first {value : Json} {octets : Bytes} (written : Writes value octets) :
    ∃ octet tail, octets = octet :: tail ∧ isBlank octet = false ∧ octet ≠ 0x5D := by
  cases written with
  | natural value =>
      cases split : encodeChars (Ascii.decimal value) with
      | nil =>
          rw [Ascii.encodeChars_decimal, List.map_eq_nil_iff] at split
          exact absurd split (Ascii.decimal_ne_nil value)
      | cons octet tail =>
          have membership : octet ∈ encodeChars (Ascii.decimal value) := by simp [split]
          have digit := Ascii.isDigit_of_mem_encodeChars_decimal membership
          refine ⟨octet, tail, rfl, isBlank_of_isDigit digit, ?_⟩
          intro bracket
          rw [bracket] at digit
          contradiction
  | text value => exact ⟨0x22, _, rfl, by decide, by decide⟩
  | _ => exact ⟨_, _, rfl, by decide, by decide⟩

section Skip

variable (fuel : Nat) (octets : Bytes)

theorem value_skipBlanks :
    Reading.value fuel (Reading.skipBlanks octets) = Reading.value fuel octets := by
  cases fuel with
  | zero => simp only [Reading.value]
  | succ fuel => simp only [Reading.value, skipBlanks_skipBlanks]

theorem items_skipBlanks :
    Reading.items fuel (Reading.skipBlanks octets) = Reading.items fuel octets := by
  cases fuel with
  | zero => simp only [Reading.items]
  | succ fuel => simp only [Reading.items, value_skipBlanks]

theorem members_skipBlanks :
    Reading.members fuel (Reading.skipBlanks octets) = Reading.members fuel octets := by
  cases fuel with
  | zero => simp only [Reading.members]
  | succ fuel => simp only [Reading.members, skipBlanks_skipBlanks]

theorem value_append_blanks {blanks : Bytes} (areBlanks : Blanks blanks) :
    Reading.value fuel (blanks ++ octets) = Reading.value fuel octets := by
  rw [← value_skipBlanks, skipBlanks_append areBlanks, value_skipBlanks]

end Skip

section Atoms

variable (fuel : Nat) {rest : Bytes}

theorem encodeChars_quote (text : String) :
    encodeChars (quote text) = 0x22 :: (encodeChars (text.toList.flatMap escape) ++ [0x22]) := by
  unfold quote
  rw [encodeChars_cons, encodeChars_append]
  rfl

theorem quoted_quote (text : String) (rest : Bytes) :
    Reading.quoted (encodeChars (text.toList.flatMap escape) ++ 0x22 :: rest) =
      (.text (.ok text) none, .ok rest) := by
  unfold Reading.quoted
  rw [Quoted.read_quote]
  simp [Except.bind, Reading.faultOf]

theorem value_quote (text : String) (rest : Bytes) :
    Reading.value (fuel + 1) (encodeChars (quote text) ++ rest) =
      (.text (.ok text) none, .ok rest) := by
  rw [encodeChars_quote, List.cons_append, List.append_assoc]
  simp only [Reading.value, skipBlanks_cons (show isBlank 0x22 = false by decide), if_true]
  exact quoted_quote text rest

theorem value_decimal (number : Nat) (ends : Numeral.EndsNumber rest) :
    Reading.value (fuel + 1) (encodeChars (Ascii.decimal number) ++ rest) =
      (.number (.ofNatural number), .ok rest) := by
  have numeral : Reading.numeral (encodeChars (Ascii.decimal number) ++ rest) =
      (.number (.ofNatural number), .ok rest) := by
    unfold Reading.numeral
    rw [Numeral.read_decimal number ends]
  obtain ⟨octet, tail, split, noBlank, -⟩ := (Writes.natural number).first
  have digit : Ascii.isDigit octet = true :=
    Ascii.isDigit_of_mem_encodeChars_decimal (by rw [split]; exact List.mem_cons_self)
  have differs (other : UInt8) (noDigit : Ascii.isDigit other = false) : octet ≠ other := by
    rintro rfl
    rw [digit] at noDigit
    contradiction
  rw [split, List.cons_append] at numeral ⊢
  simp only [Reading.value, skipBlanks_cons noBlank, differs 0x22 (by decide),
    differs 0x7B (by decide), differs 0x5B (by decide), differs 0x6E (by decide),
    differs 0x74 (by decide), differs 0x66 (by decide), digit, if_false, or_true, if_true]
  exact numeral

end Atoms

section Containers

theorem value_bracket {fuel : Nat} {octets rest : Bytes} {first : UInt8} {tail : Bytes}
    (begins : Reading.skipBlanks octets = first :: tail) (noBracket : first ≠ 0x5D)
    {items : List Reading} (read : Reading.items fuel octets = (items, .ok rest)) :
    Reading.value (fuel + 1) (0x5B :: octets) = (.array items none, .ok rest) := by
  rw [← items_skipBlanks, begins] at read
  simp only [Reading.value, skipBlanks_cons (show isBlank 0x5B = false by decide), begins]
  simp [noBracket, read, Reading.faultOf]

/-- After the brace that opens an object, its members are read. -/
theorem value_brace {fuel : Nat} {octets rest : Bytes} {first : UInt8} {tail : Bytes}
    (begins : Reading.skipBlanks octets = first :: tail) (noBrace : first ≠ 0x7D)
    {members : List (Reading × Reading)}
    (read : Reading.members fuel octets = (members, .ok rest)) :
    Reading.value (fuel + 1) (0x7B :: octets) = (.object members none, .ok rest) := by
  rw [← members_skipBlanks, begins] at read
  simp only [Reading.value, skipBlanks_cons (show isBlank 0x7B = false by decide), begins]
  simp [noBrace, read, Reading.faultOf]

theorem WritesItems.begins {items : List Json} {octets : Bytes}
    (written : WritesItems items octets) (rest : Bytes) :
    ∃ first tail, Reading.skipBlanks (octets ++ rest) = first :: tail ∧ first ≠ 0x5D := by
  cases written with
  | last blanksBefore _ inner | more blanksBefore _ inner _ =>
      obtain ⟨first, tail, rfl, noBlank, noBracket⟩ := inner.first
      simp only [List.append_assoc, skipBlanks_append blanksBefore, List.cons_append,
        skipBlanks_cons noBlank]
      exact ⟨first, _, rfl, noBracket⟩

theorem WritesMembers.begins {members : List (String × Json)} {octets : Bytes}
    (written : WritesMembers members octets) (rest : Bytes) :
    ∃ first tail, Reading.skipBlanks (octets ++ rest) = first :: tail ∧ first ≠ 0x7D := by
  have quoteMark : isBlank 0x22 = false := by decide
  cases written with
  | last blanksBefore _ _ _ | more blanksBefore _ _ _ _ =>
      simp only [encodeChars_quote, List.append_assoc, skipBlanks_append blanksBefore,
        List.cons_append, skipBlanks_cons quoteMark]
      exact ⟨0x22, _, rfl, by decide⟩

variable {fuel : Nat} {octets after rest : Bytes} {reading : Reading}

theorem items_last (blanksAfter : Blanks after)
    (read : Reading.value fuel octets = (reading, .ok (after ++ 0x5D :: rest))) :
    Reading.items (fuel + 1) octets = ([reading], .ok rest) := by
  simp only [Reading.items, read, skipBlanks_append blanksAfter,
    skipBlanks_cons (show isBlank 0x5D = false by decide)]

theorem items_more {later : Bytes} {others : List Reading} (blanksAfter : Blanks after)
    (read : Reading.value fuel octets = (reading, .ok (after ++ 0x2C :: later)))
    (readOthers : Reading.items fuel later = (others, .ok rest)) :
    Reading.items (fuel + 1) octets = (reading :: others, .ok rest) := by
  simp only [Reading.items, read, skipBlanks_append blanksAfter,
    skipBlanks_cons (show isBlank 0x2C = false by decide), readOthers]

variable {before : Bytes} {name : String}

theorem members_last (blanksBefore : Blanks before) (blanksAfter : Blanks after)
    (read : Reading.value fuel octets = (reading, .ok (after ++ 0x7D :: rest))) :
    Reading.members (fuel + 1) (before ++ encodeChars (quote name) ++ 0x3A :: octets) =
      ([(.text (.ok name) none, reading)], .ok rest) := by
  rw [encodeChars_quote]
  simp only [List.append_assoc, List.cons_append, List.nil_append, Reading.members,
    skipBlanks_append blanksBefore, skipBlanks_cons (show isBlank 0x22 = false by decide),
    quoted_quote, skipBlanks_cons (show isBlank 0x3A = false by decide), read,
    skipBlanks_append blanksAfter, skipBlanks_cons (show isBlank 0x7D = false by decide)]

theorem members_more {later : Bytes} {others : List (Reading × Reading)}
    (blanksBefore : Blanks before) (blanksAfter : Blanks after)
    (read : Reading.value fuel octets = (reading, .ok (after ++ 0x2C :: later)))
    (readOthers : Reading.members fuel later = (others, .ok rest)) :
    Reading.members (fuel + 1) (before ++ encodeChars (quote name) ++ 0x3A :: octets) =
      ((.text (.ok name) none, reading) :: others, .ok rest) := by
  rw [encodeChars_quote]
  simp only [List.append_assoc, List.cons_append, List.nil_append, Reading.members,
    skipBlanks_append blanksBefore, skipBlanks_cons (show isBlank 0x22 = false by decide),
    quoted_quote, skipBlanks_cons (show isBlank 0x3A = false by decide), read,
    skipBlanks_append blanksAfter, skipBlanks_cons (show isBlank 0x2C = false by decide),
    readOthers]

end Containers

mutual

/-- A value is read from any of its written forms; the fuel is twice their length. -/
theorem value_of_writes {value : Json} {octets : Bytes} (written : Writes value octets)
    {fuel : Nat} (enough : 2 * octets.length ≤ fuel) {rest : Bytes}
    (ends : Numeral.EndsNumber rest) :
    Reading.value fuel (octets ++ rest) = (value.toReading, .ok rest) := by
  obtain ⟨first, tail, split, -, -⟩ := written.first
  have positive : 0 < octets.length := by simp [split]
  obtain ⟨fuel, rfl⟩ : ∃ less, fuel = less + 1 := ⟨fuel - 1, by omega⟩
  cases written with
  | null => rfl
  | yes => rfl
  | no => rfl
  | natural number => exact value_decimal fuel number ends
  | text value => exact value_quote fuel value rest
  | noItems => rfl
  | noMembers => rfl
  | array inside =>
      obtain ⟨first, tail, begins, noBracket⟩ := inside.begins rest
      rw [List.length_cons] at enough
      exact value_bracket begins noBracket (items_of_writes inside (by omega) rest)
  | object inside =>
      obtain ⟨first, tail, begins, noBrace⟩ := inside.begins rest
      rw [List.length_cons] at enough
      exact value_brace begins noBrace (members_of_writes inside (by omega) rest)

theorem items_of_writes {items : List Json} {octets : Bytes} (written : WritesItems items octets)
    {fuel : Nat} (enough : 2 * octets.length + 1 ≤ fuel) (rest : Bytes) :
    Reading.items fuel (octets ++ rest) = (itemsToReading items, .ok rest) := by
  obtain ⟨fuel, rfl⟩ : ∃ less, fuel = less + 1 := ⟨fuel - 1, by omega⟩
  cases written with
  | last blanksBefore blanksAfter inner =>
      simp only [List.length_append, List.length_cons, List.length_nil] at enough
      simp only [List.append_assoc]
      refine items_last blanksAfter ?_
      rw [value_append_blanks _ _ blanksBefore]
      exact value_of_writes inner (by omega)
        (endsNumber_append blanksAfter (endsNumber_cons (.inr (.inl rfl))))
  | more blanksBefore blanksAfter inner others =>
      simp only [List.length_append, List.length_cons] at enough
      simp only [List.append_assoc, List.cons_append]
      refine items_more blanksAfter ?_ (items_of_writes others (by omega) rest)
      rw [value_append_blanks _ _ blanksBefore]
      exact value_of_writes inner (by omega)
        (endsNumber_append blanksAfter (endsNumber_cons (.inl rfl)))

theorem members_of_writes {members : List (String × Json)} {octets : Bytes}
    (written : WritesMembers members octets) {fuel : Nat}
    (enough : 2 * octets.length + 1 ≤ fuel) (rest : Bytes) :
    Reading.members fuel (octets ++ rest) = (membersToReading members, .ok rest) := by
  obtain ⟨fuel, rfl⟩ : ∃ less, fuel = less + 1 := ⟨fuel - 1, by omega⟩
  cases written with
  | last blanksBefore blanksBetween blanksAfter inner =>
      simp only [List.length_append, List.length_cons, List.length_nil] at enough
      rw [List.append_assoc, List.cons_append]
      refine members_last blanksBefore blanksAfter ?_
      simp only [List.append_assoc]
      rw [value_append_blanks _ _ blanksBetween]
      exact value_of_writes inner (by omega)
        (endsNumber_append blanksAfter (endsNumber_cons (.inr (.inr rfl))))
  | more blanksBefore blanksBetween blanksAfter inner others =>
      simp only [List.length_append, List.length_cons] at enough
      rw [List.append_assoc, List.cons_append]
      refine members_more blanksBefore blanksAfter ?_ (members_of_writes others (by omega) rest)
      simp only [List.append_assoc, List.cons_append]
      rw [value_append_blanks _ _ blanksBetween]
      exact value_of_writes inner (by omega)
        (endsNumber_append blanksAfter (endsNumber_cons (.inl rfl)))

end

end GameCatalog.Json
