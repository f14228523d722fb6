import GameCatalog.Text.Percent

/-!
Form encoding of a list of names and values, as query strings and login requests
carry it: pairs joined by ampersands, a name and its value by an equals sign, a
space written as a plus sign and other octets percent-encoded.
-/

namespace GameCatalog.Form

/-- The octets that stand for themselves. -/
def keeps (octet : UInt8) : Bool :=
  Ascii.isAlphanumeric octet || octet == 0x2A || octet == 0x2D || octet == 0x2E ||
    octet == 0x5F

/-- The written form of one octet. -/
def encodeOctet (octet : UInt8) : List Char :=
  if octet = 0x20 then ['+'] else Percent.encodeOctet keeps octet

def encodeText (text : String) : List Char :=
  (Utf8.encode text).flatMap encodeOctet

def encodePair (pair : String × String) : List Char :=
  encodeText pair.1 ++ '=' :: encodeText pair.2

def encode : List (String × String) → List Char
  | [] => []
  | [pair] => encodePair pair
  | pair :: rest => encodePair pair ++ '&' :: encode rest

def split (separator : UInt8) : Bytes → List Bytes
  | [] => [[]]
  | octet :: rest =>
      if octet = separator then [] :: split separator rest
      else
        match split separator rest with
        | piece :: pieces => (octet :: piece) :: pieces
        | [] => [[octet]]

def decodeText (octets : Bytes) : String :=
  Utf8.decodeLossy
    (Percent.decode (octets.map fun octet => if octet = 0x2B then 0x20 else octet))

/-- The pair that a written form stands for; without an equals sign the value is empty. -/
def decodePair (octets : Bytes) : String × String :=
  (decodeText (octets.takeWhile (· != 0x3D)),
    decodeText ((octets.dropWhile (· != 0x3D)).drop 1))

/-- The pairs that a written form stands for; empty pieces stand for none. -/
def decode (octets : Bytes) : List (String × String) :=
  ((split 0x26 octets).filter (· != [])).map decodePair

end GameCatalog.Form
