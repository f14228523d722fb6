import GameCatalog.Json.Fault
import GameCatalog.Text.Ascii

/-!
JSON numbers.  A number without sign, fraction and exponent that is below 2^64 is
`natural`; a number whose size exceeds every double is `excessive`; all others are
`other`, since no field of this library takes them.
-/

namespace GameCatalog.Json

inductive Numeral where
  | natural (value : UInt64)
  | other
  | excessive
  deriving DecidableEq, Repr

namespace Numeral

def ofDigits (digits : Bytes) : Nat :=
  digits.foldl (fun number digit => number * 10 + (digit.toNat - 0x30)) 0

/-- The least number that is rounded to no double. -/
def bound : Nat := Nat.pow 2 1024 - Nat.pow 2 970

/-- The number `digits * 10 ^ exponent` exceeds every double. -/
def exceeds (digits : Nat) (exponent : Int) : Bool :=
  let size : Int := (Nat.toDigits 10 digits).length + exponent
  if digits = 0 then false
  else if size > 310 then true
  else if size < 300 then false
  else if 0 ≤ exponent then bound ≤ digits * Nat.pow 10 exponent.toNat
  else bound * Nat.pow 10 (-exponent).toNat ≤ digits

def ofParts (negative : Bool) (whole : Bytes) (fraction : Option Bytes)
    (exponent : Option Int) : Numeral :=
  match negative, fraction, exponent with
  | false, none, none =>
      let value := ofDigits whole
      if value < UInt64.size then natural (UInt64.ofNat value)
      else if exceeds value 0 then excessive else other
  | _, _, _ =>
      let places := fraction.getD []
      if exceeds (ofDigits (whole ++ places)) (exponent.getD 0 - places.length) then excessive
      else other

/-- Digits, at least one, and what follows them. -/
def digits (octets : Bytes) : Except Fault (Bytes × Bytes) :=
  match octets.takeWhile Ascii.isDigit with
  | [] => .error (if octets = [] then .truncated else .malformed)
  | found => .ok (found, octets.dropWhile Ascii.isDigit)

/-- The digits before the point: a zero alone, or digits that do not begin with one. -/
def whole (octets : Bytes) : Except Fault (Bytes × Bytes) := do
  let (found, rest) ← digits octets
  if found.head? = some 0x30 ∧ found.length ≠ 1 then throw .malformed
  return (found, rest)

/-- The digits after the point, if there is one. -/
def fraction (octets : Bytes) : Except Fault (Option Bytes × Bytes) :=
  match octets with
  | 0x2E :: rest => (digits rest).map fun (found, rest) => (some found, rest)
  | _ => .ok (none, octets)

/-- The exponent, if there is one. -/
def exponent (octets : Bytes) : Except Fault (Option Int × Bytes) :=
  match octets with
  | letter :: rest =>
      if letter = 0x65 ∨ letter = 0x45 then
        match rest with
        | 0x2D :: rest =>
            (digits rest).map fun (found, rest) => (some (-(ofDigits found : Int)), rest)
        | 0x2B :: rest =>
            (digits rest).map fun (found, rest) => (some (ofDigits found : Int), rest)
        | _ => (digits rest).map fun (found, rest) => (some (ofDigits found : Int), rest)
      else .ok (none, octets)
  | [] => .ok (none, octets)

def read (octets : Bytes) : Except Fault (Numeral × Bytes) := do
  let negative := octets.head? = some 0x2D
  let (whole, rest) ← whole (if negative then octets.drop 1 else octets)
  let (fraction, rest) ← fraction rest
  let (exponent, rest) ← exponent rest
  return (ofParts negative whole fraction exponent, rest)

end Numeral

end GameCatalog.Json
