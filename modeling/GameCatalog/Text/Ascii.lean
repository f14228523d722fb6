import GameCatalog.Text.Utf8

/-!
The ASCII classes that the formats of this library are built from.  Every test is
on octets or on single characters, and none of them holds outside ASCII.
-/

namespace GameCatalog.Ascii

def isDigit (octet : UInt8) : Bool :=
  0x30 ≤ octet && octet ≤ 0x39

/-- A letter of either case. -/
def isLetter (octet : UInt8) : Bool :=
  (0x41 ≤ octet && octet ≤ 0x5A) || (0x61 ≤ octet && octet ≤ 0x7A)

def isAlphanumeric (octet : UInt8) : Bool :=
  isDigit octet || isLetter octet

/-- The small letter for a capital one, any other octet unchanged. -/
def lower (octet : UInt8) : UInt8 :=
  if 0x41 ≤ octet && octet ≤ 0x5A then octet + 0x20 else octet

/-- The value of a hexadecimal digit of either case. -/
def hexValue? (octet : UInt8) : Option Nat :=
  if isDigit octet then some (octet.toNat - 0x30)
  else if 0x41 ≤ octet && octet ≤ 0x46 then some (octet.toNat - 0x37)
  else if 0x61 ≤ octet && octet ≤ 0x66 then some (octet.toNat - 0x57)
  else none

/-- The decimal digits of a number, the most significant first. -/
def decimal (number : Nat) : List Char :=
  Nat.toDigits 10 number

def hexDigit (value : Nat) : Char :=
  if value < 10 then Char.ofNat (0x30 + value) else Char.ofNat (0x57 + value)

def capitalHexDigit (value : Nat) : Char :=
  if value < 10 then Char.ofNat (0x30 + value) else Char.ofNat (0x37 + value)

/-- The octets of an ASCII literal. -/
def octets (text : String) : Bytes :=
  text.toList.map fun character => UInt8.ofNat character.toNat

end GameCatalog.Ascii
