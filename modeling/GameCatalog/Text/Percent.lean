import GameCatalog.Text.Ascii

/-!
Percent-encoding.  An octet that the given class keeps stands for itself, any
other octet becomes a percent sign with two capital hexadecimal digits.  Reading
leaves every percent sign alone that two hexadecimal digits do not follow.
-/

namespace GameCatalog.Percent

/-- The percent sign with the two digits of an octet. -/
def escape (octet : UInt8) : List Char :=
  ['%', Ascii.capitalHexDigit (octet.toNat / 16), Ascii.capitalHexDigit (octet.toNat % 16)]

/-- The written form of one octet. -/
def encodeOctet (keeps : UInt8 → Bool) (octet : UInt8) : List Char :=
  if keeps octet then [Char.ofNat octet.toNat] else escape octet

/-- The written form of a sequence of octets. -/
def encode (keeps : UInt8 → Bool) (octets : Bytes) : List Char :=
  octets.flatMap (encodeOctet keeps)

/-- The octet of two hexadecimal digits. -/
def pair? (high low : UInt8) : Option UInt8 := do
  return UInt8.ofNat ((← Ascii.hexValue? high) * 16 + (← Ascii.hexValue? low))

/-- The octets that a written form stands for. -/
def decode : Bytes → Bytes
  | 0x25 :: high :: low :: rest =>
      match pair? high low with
      | some octet => octet :: decode rest
      | none => 0x25 :: decode (high :: low :: rest)
  | octet :: rest => octet :: decode rest
  | [] => []

end GameCatalog.Percent
