import GameCatalog.Random.Alphanumeric

/-!
The texts of product keys and access tokens.  A product key is five groups of five
letters or digits, joined by hyphens; an access token is 64 letters or digits.
-/

namespace GameCatalog

namespace ProductKeyText

/-- The number of characters of a key without its hyphens. -/
def drawnLength : Nat := 25

/-- The length of a key in octets. -/
def length : Nat := 29

/-- The octets from the given place on are those of a key. -/
def followsPattern : (place : Nat) → Bytes → Bool
  | _, [] => true
  | place, octet :: rest =>
      (if place % 6 = 5 then octet == 0x2D else Ascii.isAlphanumeric octet) &&
        followsPattern (place + 1) rest

def isValid (text : String) : Bool :=
  (Utf8.encode text).length == length && followsPattern 0 (Utf8.encode text)

/-- Puts a hyphen after each five characters but the last. -/
def group : List Char → List Char
  | a :: b :: c :: d :: e :: f :: rest => a :: b :: c :: d :: e :: '-' :: group (f :: rest)
  | rest => rest

def draw (stream : Stream) : String × Stream :=
  let (characters, stream) := Alphanumeric.draw drawnLength stream
  (String.ofList (group characters), stream)

end ProductKeyText

namespace AccessToken

/-- The length of a token in octets. -/
def length : Nat := 64

def isValid (text : String) : Bool :=
  (Utf8.encode text).length == length && (Utf8.encode text).all Ascii.isAlphanumeric

def draw (stream : Stream) : String × Stream :=
  let (characters, stream) := Alphanumeric.draw length stream
  (String.ofList characters, stream)

end AccessToken

end GameCatalog
