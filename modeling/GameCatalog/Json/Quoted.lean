import GameCatalog.Json.Fault
import GameCatalog.Text.Ascii

/-!
JSON texts, from the octet after the opening quotation mark on.  Two readings go side
by side.  The first one wants the characters, so every escape must stand for one and
the octets must be UTF-8; the second one only looks for the closing quotation mark,
and both may end in different faults.
-/

namespace GameCatalog.Json.Quoted

/-- The octets that a text stands for, and what follows its closing quotation mark. -/
structure Outcome where
  content : Except Fault Bytes
  rest : Except Fault Bytes

namespace Outcome

/-- Both readings end here with a fault. -/
def stop (fault : Fault) : Outcome := ⟨.error fault, .error fault⟩

/-- Puts octets in front of those read. -/
def prepend (octets : Bytes) (outcome : Outcome) : Outcome :=
  { outcome with content := outcome.content.map (octets ++ ·) }

/-- The octets cannot be read, but the text may still be passed over. -/
def unreadable (fault : Fault) (outcome : Outcome) : Outcome :=
  { outcome with content := .error fault }

end Outcome

/-- The octet that a letter stands for after a backslash. -/
def simpleEscape? (letter : UInt8) : Option UInt8 :=
  if letter = 0x22 ∨ letter = 0x5C ∨ letter = 0x2F then some letter
  else if letter = 0x62 then some 0x08
  else if letter = 0x66 then some 0x0C
  else if letter = 0x6E then some 0x0A
  else if letter = 0x72 then some 0x0D
  else if letter = 0x74 then some 0x09
  else none

def unit? (a b c d : UInt8) : Option Nat := do
  return (← Ascii.hexValue? a) * 4096 + (← Ascii.hexValue? b) * 256 +
    (← Ascii.hexValue? c) * 16 + (← Ascii.hexValue? d)

/-- The first half of a character beyond the basic plane. -/
def isLeading (unit : Nat) : Bool := 0xD800 ≤ unit && unit ≤ 0xDBFF

def isTrailing (unit : Nat) : Bool := 0xDC00 ≤ unit && unit ≤ 0xDFFF

/-- The octets of the character that two halves make. -/
def combine (leading trailing : Nat) : Bytes :=
  String.utf8EncodeChar
    (Char.ofNat (0x10000 + (leading - 0xD800) * 1024 + (trailing - 0xDC00)))

inductive Escape where
  /-- The octets of a character; so many octets after the backslash belong to it. -/
  | octets (found : Bytes) (length : Nat)
  /-- No character, though so many octets after the backslash may be passed over. -/
  | unreadable (fault : Fault) (length : Nat)
  | stop (fault : Fault)

/-- The character that the first half `unit` begins; `rest` follows the half. -/
def pair (unit : Nat) (rest : Bytes) : Escape :=
  match rest with
  | 0x5C :: 0x75 :: a :: b :: c :: d :: _ =>
      match unit? a b c d with
      | some second =>
          if isTrailing second then .octets (combine unit second) 11
          else .unreadable .malformed 5
      | none => .unreadable .malformed 5
  | 0x5C :: 0x75 :: _ => .unreadable .truncated 5
  | [0x5C] => .unreadable .truncated 5
  | [] => .unreadable .truncated 5
  | _ => .unreadable .malformed 5

def escape (octets : Bytes) : Escape :=
  match octets with
  | [] => .stop .truncated
  | 0x75 :: a :: b :: c :: d :: rest =>
      match unit? a b c d with
      | none => .stop .malformed
      | some unit =>
          if isTrailing unit then .unreadable .malformed 5
          else if isLeading unit then pair unit rest
          else .octets (String.utf8EncodeChar (Char.ofNat unit)) 5
  | 0x75 :: _ => .stop .truncated
  | letter :: _ =>
      match simpleEscape? letter with
      | some octet => .octets [octet] 1
      | none => .stop .malformed

/--
Reads a text up to its closing quotation mark, the leading `skipped` octets being
already read.
-/
def readFrom : (skipped : Nat) → Bytes → Outcome
  | _, [] => .stop .truncated
  | skipped + 1, _ :: rest => readFrom skipped rest
  | 0, octet :: rest =>
      if octet = 0x22 then ⟨.ok [], .ok rest⟩
      else if octet = 0x5C then
        match escape rest with
        | .octets found length => (readFrom length rest).prepend found
        | .unreadable fault length => (readFrom length rest).unreadable fault
        | .stop fault => .stop fault
      else if octet < 0x20 then .stop .malformed
      else (readFrom 0 rest).prepend [octet]

def read (octets : Bytes) : Outcome :=
  readFrom 0 octets

end GameCatalog.Json.Quoted
