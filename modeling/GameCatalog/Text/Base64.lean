import GameCatalog.Text.Utf8

/-!
Base 64.  An `Alphabet` says which characters stand for the values 62 and 63 and
whether the text is filled up to whole groups of four characters.  Reading is
strict: a text is read only if writing the octets back gives the same text.
-/

namespace GameCatalog.Base64

/-- The choices that tell the variants of base 64 apart. -/
structure Alphabet where
  /-- The character of the value 62. -/
  symbol62 : Char
  /-- The character of the value 63. -/
  symbol63 : Char
  /-- The last group is filled up with equals signs. -/
  padded : Bool

/-- The alphabet with plus and slash, filled up. -/
def standard : Alphabet := ⟨'+', '/', true⟩

/-- The alphabet that is safe inside URLs and file names, not filled up. -/
def urlSafe : Alphabet := ⟨'-', '_', false⟩

namespace Alphabet

/-- The character of a value below 64. -/
def symbol (alphabet : Alphabet) (value : Nat) : Char :=
  if value < 26 then Char.ofNat (0x41 + value)
  else if value < 52 then Char.ofNat (0x61 + (value - 26))
  else if value < 62 then Char.ofNat (0x30 + (value - 52))
  else if value = 62 then alphabet.symbol62
  else alphabet.symbol63

def value? (alphabet : Alphabet) (character : Char) : Option Nat :=
  let code := character.toNat
  if 0x41 ≤ code ∧ code ≤ 0x5A then some (code - 0x41)
  else if 0x61 ≤ code ∧ code ≤ 0x7A then some (code - 0x61 + 26)
  else if 0x30 ≤ code ∧ code ≤ 0x39 then some (code - 0x30 + 52)
  else if character = alphabet.symbol62 then some 62
  else if character = alphabet.symbol63 then some 63
  else none

/-- What fills up a last group that lacks this many characters. -/
def filling (alphabet : Alphabet) (missing : Nat) : List Char :=
  if alphabet.padded then List.replicate missing '=' else []

end Alphabet

/-- The text of a sequence of octets. -/
def encode (alphabet : Alphabet) : Bytes → List Char
  | first :: second :: third :: rest =>
      let a := first.toNat
      let b := second.toNat
      let c := third.toNat
      alphabet.symbol (a / 4) :: alphabet.symbol (a % 4 * 16 + b / 16) ::
        alphabet.symbol (b % 16 * 4 + c / 64) :: alphabet.symbol (c % 64) ::
          encode alphabet rest
  | [first, second] =>
      let a := first.toNat
      let b := second.toNat
      [alphabet.symbol (a / 4), alphabet.symbol (a % 4 * 16 + b / 16),
        alphabet.symbol (b % 16 * 4)] ++ alphabet.filling 1
  | [first] =>
      let a := first.toNat
      [alphabet.symbol (a / 4), alphabet.symbol (a % 4 * 16)] ++ alphabet.filling 2
  | [] => []

/-- The octets of the values of whole and partial groups. -/
def octets? : List Nat → Option Bytes
  | a :: b :: c :: d :: rest =>
      (octets? rest).map fun octets =>
        UInt8.ofNat (a * 4 + b / 16) :: UInt8.ofNat (b % 16 * 16 + c / 4) ::
          UInt8.ofNat (c % 4 * 64 + d) :: octets
  | [a, b, c] =>
      if c % 4 = 0 then
        some [UInt8.ofNat (a * 4 + b / 16), UInt8.ofNat (b % 16 * 16 + c / 4)]
      else none
  | [a, b] => if b % 16 = 0 then some [UInt8.ofNat (a * 4 + b / 16)] else none
  | [_] => none
  | [] => some []

/-- The text without its filling, when it is filled up as the alphabet demands. -/
def unfilled? (alphabet : Alphabet) (text : List Char) : Option (List Char) :=
  let body := text.takeWhile (· != '=')
  let filling := text.dropWhile (· != '=')
  if filling = alphabet.filling ((4 - body.length % 4) % 4) then some body else none

/-- The octets that a text stands for. -/
def decode? (alphabet : Alphabet) (text : List Char) : Option Bytes := do
  let body ← unfilled? alphabet text
  octets? (← body.mapM alphabet.value?)

end GameCatalog.Base64
