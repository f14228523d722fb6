import GameCatalog.Json.Numeral
import GameCatalog.Json.Quoted

/-!
What was read of a JSON text.  A `Reading` is the value as far as it could be read:
where the text went wrong, the fault stands in the place of the value that was not
read.  A decoder that walks over a reading from left to right therefore meets the
faults of the text and its own disagreements in the order of the text.

`ending` is the fault met by passing over a value without looking at its meaning.
-/

namespace GameCatalog.Json

inductive Reading where
  | null
  | bool (value : Bool)
  | number (value : Numeral)
  /-- A text: its characters, or why it stands for none. -/
  | text (content : Except Fault String) (ending : Option Fault)
  /-- An array: the items begun, and why it does not end. -/
  | array (items : List Reading) (ending : Option Fault)
  /-- An object: the members begun, names first, and why it does not end. -/
  | object (members : List (Reading × Reading)) (ending : Option Fault)
  /-- What stands there is no value; passing over it may meet another fault. -/
  | broken (fault ending : Fault)
  /-- The text ends before the value. -/
  | missing

namespace Reading

def mismatch : Reading → Fault
  | text (.error fault) _ => fault
  | number .excessive => .malformed
  | broken fault _ => fault
  | missing => .truncated
  | _ => .mismatched

def ending : Reading → Option Fault
  | text _ ending => ending
  | array _ ending => ending
  | object _ ending => ending
  | broken _ ending => some ending
  | missing => some .truncated
  | _ => none

/-- The name of a member; if no text stands there, the member holds the fault. -/
def memberName : Reading × Reading → Except Fault String
  | (text content _, _) => content
  | (_, member) => .error member.mismatch

/-- The first fault met by reading the value in full, with at most so many levels. -/
def fullFault : (depth : Nat) → Reading → Option Fault
  | _, text (.error fault) _ => some fault
  | _, number .excessive => some .malformed
  | _, broken fault _ => some fault
  | 0, array _ _ => some .malformed
  | 0, object _ _ => some .malformed
  | depth + 1, array items ending => (items.findSome? (fullFault depth)).or ending
  | depth + 1, object members ending =>
      (members.findSome? fun member =>
        (match member.1 with
          | text (.error fault) _ => some fault
          | _ => none).or (fullFault depth member.2)).or ending
  | _, reading => reading.ending

/-- Drops the blanks that may stand between the parts of a JSON text. -/
def skipBlanks (octets : Bytes) : Bytes :=
  octets.dropWhile fun octet =>
    octet == 0x20 || octet == 0x0A || octet == 0x0D || octet == 0x09

/-- The fault of an outcome, if it is one. -/
def faultOf : Except Fault Bytes → Option Fault
  | .ok _ => none
  | .error fault => some fault

/-- Reads a word whose first letter is read already. -/
def word (value : Reading) : (expected : Bytes) → Bytes → Reading × Except Fault Bytes
  | [], rest => (value, .ok rest)
  | _ :: _, [] => (broken .truncated .truncated, .error .truncated)
  | letter :: expected, octet :: rest =>
      if octet = letter then word value expected rest
      else (broken .malformed .malformed, .error .malformed)

/-- Reads a text whose opening quotation mark is read already. -/
def quoted (octets : Bytes) : Reading × Except Fault Bytes :=
  let outcome := Quoted.read octets
  let content := outcome.content.bind fun found =>
    match Utf8.decode? found with
    | some characters => .ok characters
    | none => .error .malformed
  (text content (faultOf outcome.rest), outcome.rest)

/-- Reads a number.  Passed over, a number that ends early counts as malformed. -/
def numeral (octets : Bytes) : Reading × Except Fault Bytes :=
  match Numeral.read octets with
  | .ok (value, rest) => (number value, .ok rest)
  | .error fault => (broken fault .malformed, .error .malformed)

mutual

/-- Reads a value; also returns what follows it when it is passed over. -/
def value : (fuel : Nat) → Bytes → Reading × Except Fault Bytes
  | 0, _ => (broken .malformed .malformed, .error .malformed)
  | fuel + 1, octets =>
      match skipBlanks octets with
      | [] => (missing, .error .truncated)
      | octet :: rest =>
          if octet = 0x22 then quoted rest
          else if octet = 0x7B then
            match skipBlanks rest with
            | 0x7D :: rest => (object [] none, .ok rest)
            | [] => (object [] (some .truncated), .error .truncated)
            | rest =>
                let (members, rest) := members fuel rest
                (object members (faultOf rest), rest)
          else if octet = 0x5B then
            match skipBlanks rest with
            | 0x5D :: rest => (array [] none, .ok rest)
            | [] => (array [] (some .truncated), .error .truncated)
            | rest =>
                let (items, rest) := items fuel rest
                (array items (faultOf rest), rest)
          else if octet = 0x6E then word null [0x75, 0x6C, 0x6C] rest
          else if octet = 0x74 then word (bool true) [0x72, 0x75, 0x65] rest
          else if octet = 0x66 then word (bool false) [0x61, 0x6C, 0x73, 0x65] rest
          else if octet = 0x2D ∨ Ascii.isDigit octet then numeral (octet :: rest)
          else (broken .malformed .malformed, .error .malformed)

/-- Reads the items of an array that has one more. -/
def items : (fuel : Nat) → Bytes → List Reading × Except Fault Bytes
  | 0, _ => ([broken .malformed .malformed], .error .malformed)
  | fuel + 1, octets =>
      let (item, rest) := value fuel octets
      match rest with
      | .error fault => ([item], .error fault)
      | .ok rest =>
          match skipBlanks rest with
          | 0x2C :: rest =>
              let (more, rest) := items fuel rest
              (item :: more, rest)
          | 0x5D :: rest => ([item], .ok rest)
          | [] => ([item], .error .truncated)
          | _ => ([item], .error .malformed)

/-- Reads the members of an object that has one more. -/
def members : (fuel : Nat) → Bytes → List (Reading × Reading) × Except Fault Bytes
  | 0, _ => ([(broken .malformed .malformed, broken .malformed .malformed)], .error .malformed)
  | fuel + 1, octets =>
      match skipBlanks octets with
      | [] => ([(missing, missing)], .error .truncated)
      | 0x22 :: rest =>
          let (name, rest) := quoted rest
          match rest with
          | .error fault => ([(name, broken fault fault)], .error fault)
          | .ok rest =>
              match skipBlanks rest with
              | 0x3A :: rest =>
                  let (member, rest) := value fuel rest
                  match rest with
                  | .error fault => ([(name, member)], .error fault)
                  | .ok rest =>
                      match skipBlanks rest with
                      | 0x2C :: rest =>
                          let (more, rest) := members fuel rest
                          ((name, member) :: more, rest)
                      | 0x7D :: rest => ([(name, member)], .ok rest)
                      | [] => ([(name, member)], .error .truncated)
                      | _ => ([(name, member)], .error .malformed)
              | [] => ([(name, missing)], .error .truncated)
              | _ => ([(name, broken .malformed .malformed)], .error .malformed)
      | rest => ([((value fuel rest).1, broken .malformed .malformed)], .error .malformed)

end

/-- Reads a value; also returns what follows it when it is passed over. -/
def ofOctets (octets : Bytes) : Reading × Except Fault Bytes :=
  value (2 * octets.length + 2) octets

end Reading

end GameCatalog.Json
