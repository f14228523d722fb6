import GameCatalog.Json.Decoder

/-!
Records.  A `Record` lists the fields of a record and says how to put the record
together from them.  Written as an object, the fields stand in any order, no field
stands twice, and members that are no fields are passed over; written as an array,
the fields stand in the order of the description.
-/

namespace GameCatalog.Json

/-- The fields that were found, by name. -/
abbrev Found := List (String × Reading)

structure Record (Value : Type) where
  /-- The names of the fields, each with a check of what stands there. -/
  fields : List (String × Decoder Unit)
  build : Found → Except Fault Value

namespace Record

variable {Value Other : Type}

def check (decoder : Decoder Value) : Decoder Unit := fun reading =>
  (decoder reading).map fun _ => ()

/-- A record without fields. -/
def pure (value : Value) : Record Value := ⟨[], fun _ => .ok value⟩

/-- The fields of two records in order. -/
def seq (first : Record (Value → Other)) (second : Record Value) : Record Other where
  fields := first.fields ++ second.fields
  build found := do return (← first.build found) (← second.build found)

/-- A field that must be there. -/
def required (name : String) (decoder : Decoder Value) : Record Value where
  fields := [(name, check decoder)]
  build found :=
    match found.lookup name with
    | some reading => decoder reading
    | none => .error .mismatched

/-- A field that has a value even when it is not there. -/
def withDefault (name : String) (decoder : Decoder Value) (value : Value) : Record Value where
  fields := [(name, check decoder)]
  build found :=
    match found.lookup name with
    | some reading => decoder reading
    | none => .ok value

/-- A field that may be null or not there. -/
def optional (name : String) (decoder : Decoder Value) : Record (Option Value) :=
  withDefault name (Decoder.nullable decoder) none

/-- The fields among the members of an object, other members being passed over. -/
def fromMembers (passOver : Reading → Option Fault) (fields : List (String × Decoder Unit)) :
    (found : Found) → List (Reading × Reading) → Except Fault Found
  | found, [] => .ok found
  | found, (label, member) :: members => do
      let name ← Reading.memberName (label, member)
      match fields.lookup name with
      | some check =>
          if (found.lookup name).isSome then throw .mismatched
          check member
          fromMembers passOver fields (found ++ [(name, member)]) members
      | none =>
          finish () (passOver member)
          fromMembers passOver fields found members

/-- The fields at the beginning of an array, and the items left over. -/
def fromItems (ending : Option Fault) :
    List (String × Decoder Unit) → List Reading → Except Fault (Found × List Reading)
  | (name, check) :: fields, item :: items => do
      check item
      let (found, rest) ← fromItems ending fields items
      return ((name, item) :: found, rest)
  | _ :: _, [] => finish ([], []) ending
  | [], items => .ok ([], items)

def decoder (record : Record Value) : Decoder Value
  | .object members ending => do
      let found ← fromMembers Reading.ending record.fields [] members
      record.build (← finish found ending)
  | .array items ending => do
      let (found, rest) ← fromItems ending record.fields items
      let value ← record.build found
      if rest.isEmpty then finish value ending else throw .malformed
  | reading => .error reading.mismatch

/--
Reads a record that consists of several parts in one object.  There is no array form,
and members that are no fields are read in full, down to the given depth.
-/
def sharedDecoder (record : Record Value) (depth : Nat) : Decoder Value
  | .object members ending => do
      let found ← fromMembers (Reading.fullFault depth) record.fields [] members
      record.build (← finish found ending)
  | reading => .error reading.mismatch

end Record

instance : Functor Record where
  map function record := ⟨record.fields, fun found => (record.build found).map function⟩

instance : Seq Record where
  seq first second := Record.seq first (second ())

end GameCatalog.Json
