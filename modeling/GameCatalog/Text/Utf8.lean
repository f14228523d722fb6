/-!
Text as octets.  `encode` writes a string as UTF-8, `decode?` reads octets that
form a string, and `decodeLossy` reads any octets at all, putting one replacement
character where a maximal ill-formed piece stood.

Reading walks along the octets and skips the ones that belong to a character
already taken, so both readers recurse on the list itself.
-/

namespace GameCatalog

/-- A sequence of octets. -/
abbrev Bytes := List UInt8

namespace Utf8

/-- The octets of a sequence of characters. -/
def encodeChars (characters : List Char) : Bytes :=
  characters.flatMap String.utf8EncodeChar

/-- The octets of a string. -/
def encode (text : String) : Bytes :=
  encodeChars text.toList

/-- How many octets a string takes. -/
def size (text : String) : Nat :=
  (encode text).length

/-- The character that the octets begin with, if they begin with one. -/
def first? (octets : Bytes) : Option Char :=
  (octets.take 4).toByteArray.utf8DecodeChar? 0

/-- Reads characters to the end, the leading `skipped` octets being already read. -/
def decodeChars? : (skipped : Nat) → Bytes → Option (List Char)
  | 0, [] => some []
  | _ + 1, [] => none
  | skipped + 1, _ :: rest => decodeChars? skipped rest
  | 0, octet :: rest =>
      match first? (octet :: rest) with
      | some character =>
          (decodeChars? (character.utf8Size - 1) rest).map (character :: ·)
      | none => none

/-- The string whose octets these are. -/
def decode? (octets : Bytes) : Option String :=
  (decodeChars? 0 octets).map String.ofList

/-- The octet may continue a character. -/
def isContinuation (octet : UInt8) : Bool :=
  0x80 ≤ octet && octet ≤ 0xBF

/-- The second octet may follow the first one in a character of three or four octets. -/
def mayFollow (lead second : UInt8) : Bool :=
  if lead == 0xE0 then 0xA0 ≤ second && second ≤ 0xBF
  else if lead == 0xED then 0x80 ≤ second && second ≤ 0x9F
  else if lead == 0xF0 then 0x90 ≤ second && second ≤ 0xBF
  else if lead == 0xF4 then 0x80 ≤ second && second ≤ 0x8F
  else isContinuation second

/--
How many octets after the first one belong to the same ill-formed piece: those
that a well-formed character could still have begun with.
-/
def illFormedTail (lead : UInt8) (following : Bytes) : Nat :=
  if 0xE0 ≤ lead && lead ≤ 0xEF then
    match following with
    | second :: _ => if mayFollow lead second then 1 else 0
    | [] => 0
  else if 0xF0 ≤ lead && lead ≤ 0xF4 then
    match following with
    | second :: third :: _ =>
        if mayFollow lead second then (if isContinuation third then 2 else 1) else 0
    | [second] => if mayFollow lead second then 1 else 0
    | [] => 0
  else 0

/-- Reads characters to the end, whatever the octets are. -/
def decodeCharsLossy : (skipped : Nat) → Bytes → List Char
  | _, [] => []
  | skipped + 1, _ :: rest => decodeCharsLossy skipped rest
  | 0, octet :: rest =>
      match first? (octet :: rest) with
      | some character => character :: decodeCharsLossy (character.utf8Size - 1) rest
      | none => '\uFFFD' :: decodeCharsLossy (illFormedTail octet rest) rest

/-- The string read from any octets, ill-formed pieces replaced. -/
def decodeLossy (octets : Bytes) : String :=
  String.ofList (decodeCharsLossy 0 octets)

end Utf8

end GameCatalog
