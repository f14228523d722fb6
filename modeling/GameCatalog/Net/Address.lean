import GameCatalog.Text.Ascii
import GameCatalog.Text.Split

/-!
Network addresses and their texts: IP addresses of both versions, and sockets, which
add a port.
-/

namespace GameCatalog

namespace Digits

/-- The value of a digit in a base of at most sixteen. -/
def value? (base : Nat) (character : Char) : Option Nat := do
  if character.toNat < 0x80 then
    let value ← Ascii.hexValue? (UInt8.ofNat character.toNat)
    if value < base then return value
  none

/-- The number that at least one digit spells. -/
def read? (base : Nat) (characters : List Char) : Option Nat :=
  if characters.isEmpty then none
  else (characters.mapM (value? base)).map (·.foldl (fun number digit => number * base + digit) 0)

/-- The number that decimal digits without leading zeros spell. -/
def readPlain? (characters : List Char) : Option Nat :=
  if characters.head? = some '0' ∧ characters.length ≠ 1 then none
  else read? 10 characters

end Digits

/-- An IP address of version 4, as a number of 32 bits. -/
structure Ipv4 where
  number : Nat
  deriving DecidableEq, Repr

namespace Ipv4

/-- The four octets. -/
def octets (address : Ipv4) : List Nat :=
  [address.number / 0x1000000 % 256, address.number / 0x10000 % 256,
    address.number / 0x100 % 256, address.number % 256]

/-- The octets in decimal, joined by points. -/
def toChars (address : Ipv4) : List Char :=
  Split.join ['.'] (address.octets.map Ascii.decimal)

/-- Reads four octets in decimal, joined by points. -/
def ofChars? (characters : List Char) : Option Ipv4 := do
  match ← (Split.on '.' characters).mapM Digits.readPlain? with
  | [a, b, c, d] =>
      if a < 256 ∧ b < 256 ∧ c < 256 ∧ d < 256 then
        return ⟨a * 0x1000000 + b * 0x10000 + c * 0x100 + d⟩
      else none
  | _ => none

end Ipv4

/-- An IP address of version 6, as eight groups of 16 bits. -/
structure Ipv6 where
  groups : List Nat
  deriving DecidableEq, Repr

namespace Ipv6

def groupChars (group : Nat) : List Char := Nat.toDigits 16 group

/-- The groups joined by colons. -/
def joined (groups : List Nat) : List Char :=
  Split.join [':'] (groups.map groupChars)

/-- How many zero groups stand at the beginning. -/
def leadingZeros (groups : List Nat) : Nat := (groups.takeWhile (· == 0)).length

/-- The place and the length of the first of the longest runs of zero groups. -/
def longestRun : (place : Nat) → List Nat → Nat × Nat
  | place, [] => (place, 0)
  | place, group :: groups =>
      let here := leadingZeros (group :: groups)
      let (later, length) := longestRun (place + 1) groups
      if length ≤ here then (place, here) else (later, length)

/-- The text, the longest run of at least two zero groups being left out. -/
def toChars (address : Ipv6) : List Char :=
  let (place, length) := longestRun 0 address.groups
  if length < 2 then joined address.groups
  else
    joined (address.groups.take place) ++ ':' :: ':' ::
      joined (address.groups.drop (place + length))

/-- The text that shows an embedded address of version 4 as such. -/
def toCharsMixed (address : Ipv6) : List Char :=
  match address.groups with
  | [0, 0, 0, 0, 0, 0xFFFF, high, low] =>
      ':' :: ':' :: groupChars 0xFFFF ++ ':' :: (Ipv4.mk (high * 0x10000 + low)).toChars
  | _ => address.toChars

/-- Reads a group of one to four hexadecimal digits. -/
def readGroup? (characters : List Char) : Option Nat :=
  if characters.length ≤ 4 then Digits.read? 16 characters else none

/-- Reads groups, of which the last two may be written as an address of version 4. -/
def readGroups? (allowsIpv4 : Bool) : List (List Char) → Option (List Nat)
  | [] => some []
  | [last] =>
      match readGroup? last with
      | some group => some [group]
      | none =>
          if allowsIpv4 then
            (Ipv4.ofChars? last).map fun address =>
              [address.number / 0x10000, address.number % 0x10000]
          else none
  | piece :: pieces => do return (← readGroup? piece) :: (← readGroups? allowsIpv4 pieces)

/-- The pieces of a part of an address; an empty part has none. -/
def pieces (part : List Char) : List (List Char) :=
  if part.isEmpty then [] else Split.on ':' part

/--
Reads an address.  A pair of colons stands for the zero groups left out, of which
there must be at least `gap`.
-/
def ofChars? (gap : Nat) (characters : List Char) : Option Ipv6 :=
  match Split.firstPair? ':' characters with
  | none => do
      let groups ← readGroups? true (Split.on ':' characters)
      if groups.length = 8 then return ⟨groups⟩ else none
  | some (before, after) => do
      let leading ← readGroups? false (pieces before)
      let trailing ← readGroups? true (pieces after)
      let missing := 8 - (leading.length + trailing.length)
      if leading.length + trailing.length ≤ 8 ∧ gap ≤ missing then
        return ⟨leading ++ List.replicate missing 0 ++ trailing⟩
      else none

end Ipv6

inductive SocketAddress where
  | ipv4 (address : Ipv4) (port : Nat)
  /-- The scope tells networks with equal addresses apart; it is zero if none is meant. -/
  | ipv6 (address : Ipv6) (scope port : Nat)
  deriving DecidableEq, Repr

namespace SocketAddress

def toText : SocketAddress → String
  | .ipv4 address port => String.ofList (address.toChars ++ ':' :: Ascii.decimal port)
  | .ipv6 address scope port =>
      let scope := if scope = 0 then [] else '%' :: Ascii.decimal scope
      String.ofList ('[' :: address.toCharsMixed ++ scope ++ ']' :: ':' :: Ascii.decimal port)

def readBelow? (bound : Nat) (characters : List Char) : Option Nat := do
  let number ← Digits.read? 10 characters
  if number < bound then return number else none

/-- Reads a socket: an address of version 4, or one of version 6 in brackets, and a port. -/
def ofText? (text : String) : Option SocketAddress :=
  match text.toList with
  | '[' :: rest => do
      let (inside, after) ← Split.first? ']' rest
      let port ← readBelow? UInt16.size (← Split.afterPrefix? [':'] after)
      match Split.first? '%' inside with
      | none => return .ipv6 (← Ipv6.ofChars? 1 inside) 0 port
      | some (address, scope) =>
          return .ipv6 (← Ipv6.ofChars? 1 address) (← readBelow? UInt32.size scope) port
  | characters => do
      let (address, port) ← Split.first? ':' characters
      return .ipv4 (← Ipv4.ofChars? address) (← readBelow? UInt16.size port)

end SocketAddress

end GameCatalog
