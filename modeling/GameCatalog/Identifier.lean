import GameCatalog.Text.Ascii

/-!
Identifiers: numbers of 128 bits, each tagged with the kind of record it names, so
that a game's identifier cannot be used where an edition's is meant.  They are
written as 32 small hexadecimal digits in five groups and read in four spellings.
-/

namespace GameCatalog

inductive Entity where
  | user
  | edition
  | game
  | gameFile
  | productKey
  | launcherSession
  deriving DecidableEq, Repr

structure Id (entity : Entity) where
  number : BitVec 128
  deriving DecidableEq, Repr

abbrev UserId := Id .user
abbrev EditionId := Id .edition
abbrev GameId := Id .game
abbrev GameFileId := Id .gameFile
abbrev ProductKeyId := Id .productKey
abbrev LauncherSessionId := Id .launcherSession

namespace Id

variable {entity : Entity}

/-- Identifiers are ordered as numbers, which is also the order of their texts. -/
def precedes (left right : Id entity) : Bool :=
  left.number.toNat < right.number.toNat

/-- The last `count` hexadecimal digits of a number, the most significant first. -/
def digits : (count : Nat) → Nat → List Nat
  | 0, _ => []
  | count + 1, number => digits count (number / 16) ++ [number % 16]

def ofDigits (values : List Nat) : Nat :=
  values.foldl (fun number digit => number * 16 + digit) 0

/-- The written form: groups of 8, 4, 4, 4 and 12 small hexadecimal digits. -/
def toChars (id : Id entity) : List Char :=
  let written := (digits 32 id.number.toNat).map Ascii.hexDigit
  written.take 8 ++ '-' :: ((written.drop 8).take 4 ++ '-' :: ((written.drop 12).take 4 ++
    '-' :: ((written.drop 16).take 4 ++ '-' :: written.drop 20)))

def toText (id : Id entity) : String :=
  String.ofList id.toChars

instance : ToString (Id entity) where
  toString := toText

/-- Reads exactly 32 hexadecimal digits. -/
def ofPlain? (octets : Bytes) : Option (Id entity) :=
  if octets.length = 32 then
    (octets.mapM Ascii.hexValue?).map fun values => ⟨BitVec.ofNat 128 (ofDigits values)⟩
  else none

/-- The digits of a text in five groups joined by hyphens. -/
def ungrouped? (octets : Bytes) : Option Bytes :=
  if octets.length = 36 ∧ octets[8]? = some 0x2D ∧ octets[13]? = some 0x2D ∧
      octets[18]? = some 0x2D ∧ octets[23]? = some 0x2D then
    some (octets.take 8 ++ (octets.drop 9).take 4 ++ (octets.drop 14).take 4 ++
      (octets.drop 19).take 4 ++ octets.drop 24)
  else none

def ofGrouped? (octets : Bytes) : Option (Id entity) :=
  (ungrouped? octets).bind ofPlain?

/-- The name of the identifier scheme, in front of a grouped text. -/
def schemeName : Bytes := Ascii.octets "urn:uuid:"

/--
Reads an identifier: 32 digits, or five groups of digits, the groups also in braces
or after the name of the scheme.  Letters may have either case.
-/
def ofOctets? (octets : Bytes) : Option (Id entity) :=
  if octets.length = 32 then ofPlain? octets
  else if octets.length = 36 then ofGrouped? octets
  else if octets.length = 38 then
    if octets.head? = some 0x7B ∧ octets.getLast? = some 0x7D then
      ofGrouped? (octets.drop 1).dropLast
    else none
  else if octets.length = 45 then
    if (octets.take 9).map Ascii.lower = schemeName then ofGrouped? (octets.drop 9) else none
  else none

def ofText? (text : String) : Option (Id entity) :=
  ofOctets? (Utf8.encode text)

/-- The number that sixteen octets spell. -/
def ofBigEndian (octets : Bytes) : Nat :=
  octets.foldl (fun number octet => number * 256 + octet.toNat) 0

/--
The identifier made of sixteen random octets: the digit after the second hyphen says
that it is random, and the two bits after the third hyphen are fixed.
-/
def ofRandom (octets : Bytes) : Id entity :=
  let fixed : Bytes := octets.mapIdx fun position octet =>
    if position = 6 then (octet &&& 0x0F) ||| 0x40
    else if position = 8 then (octet &&& 0x3F) ||| 0x80
    else octet
  ⟨BitVec.ofNat 128 (ofBigEndian fixed)⟩

end Id

end GameCatalog
