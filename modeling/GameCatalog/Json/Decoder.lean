import GameCatalog.Json.Reading
import GameCatalog.Identifier
import GameCatalog.Secret

/-!
Decoders: functions from readings to values of the domain.  The ones here read texts,
natural numbers, lists, absent values and named alternatives; `Record` builds the
decoder of a record from its fields, one description serving both written forms of a
record, the object and the array.
-/

namespace GameCatalog.Json

abbrev Decoder (Value : Type) := Reading → Except Fault Value

/-- Fails when there is a fault. -/
def finish {Value : Type} (value : Value) : Option Fault → Except Fault Value
  | none => .ok value
  | some fault => .error fault

namespace Decoder

variable {Value : Type}

def text : Decoder String
  | .text content _ => content
  | reading => .error reading.mismatch

/-- Reads a natural number below 2^64. -/
def natural : Decoder UInt64
  | .number (.natural value) => .ok value
  | reading => .error reading.mismatch

def parsed (parse : String → Option Value) : Decoder Value := fun reading => do
  match parse (← text reading) with
  | some value => return value
  | none => throw .mismatched

def identifier {entity : Entity} : Decoder (Id entity) :=
  parsed Id.ofText?

def secret : Decoder Secret := fun reading =>
  (text reading).map Secret.mk

def list (item : Decoder Value) : Decoder (List Value)
  | .array items ending => do finish (← items.mapM item) ending
  | reading => .error reading.mismatch

/-- Reads a value that may be null. -/
def nullable (decoder : Decoder Value) : Decoder (Option Value)
  | .null => .ok none
  | reading => (decoder reading).map some

/--
Reads one of several named alternatives: its name, or an object with that name alone
whose value holds nothing.
-/
def alternative (choices : List (String × Value)) (holdsNothing : Decoder Unit) :
    Decoder Value
  | .text content _ => do
      match choices.lookup (← content) with
      | some value => return value
      | none => throw .mismatched
  | .object ((name, holding) :: more) ending => do
      match choices.lookup (← text name) with
      | some value =>
          holdsNothing holding
          if more.isEmpty then finish value ending else throw .malformed
      | none => throw .mismatched
  | .object [] ending => .error (ending.getD .malformed)
  | .missing => .error .truncated
  | _ => .error .malformed

def null : Decoder Unit
  | .null => .ok ()
  | reading => .error reading.mismatch

/-- Reads null, or an object without members. -/
def nothing : Decoder Unit
  | .object [] ending => finish () ending
  | reading => null reading

/-- Reads the pairs of an object in order, given how a name is taken. -/
def pairs {Name : Type} (takeName : String → Option Name) (value : Decoder Value) :
    Decoder (List (Name × Value))
  | .object members ending => do
      let found ← members.mapM fun member => do
        match takeName (← Reading.memberName member) with
        | some name => return (name, ← value member.2)
        | none => throw .mismatched
      finish found ending
  | reading => .error reading.mismatch

/-- Reads a value from octets that hold nothing else. -/
def run (decoder : Decoder Value) (octets : Bytes) : Except Fault Value := do
  let (reading, rest) := Reading.ofOctets octets
  let value ← decoder reading
  if Reading.skipBlanks (← rest) = [] then return value else throw .malformed

end Decoder

end GameCatalog.Json
