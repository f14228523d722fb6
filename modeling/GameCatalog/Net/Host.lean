import GameCatalog.Net.Address
import GameCatalog.Text.Percent

/-!
The hosts of URLs: domain names and IP addresses.  A domain name is brought to its
ASCII form, in which a label with other characters is written with the prefix `xn--`
and the Punycode of the label.
-/

namespace GameCatalog

/-- Why a text is not a URL. -/
inductive UrlError where
  | emptyHost
  | invalidDomain
  | invalidDomainCharacter
  | invalidPort
  | invalidIpv4
  | invalidIpv6
  | relative
  deriving DecidableEq, Repr

def UrlError.message : UrlError → String
  | .emptyHost => "empty host"
  | .invalidDomain => "invalid international domain name"
  | .invalidDomainCharacter => "invalid domain character"
  | .invalidPort => "invalid port number"
  | .invalidIpv4 => "invalid IPv4 address"
  | .invalidIpv6 => "invalid IPv6 address"
  | .relative => "relative URL without a base"

namespace Punycode

/-- The digits of Punycode: small letters, then decimal digits. -/
def digit (value : Nat) : Char :=
  if value < 26 then Char.ofNat (0x61 + value) else Char.ofNat (0x30 + (value - 26))

/-- How much the digit at a place stands for at most, before the next place is used. -/
def threshold (place bias : Nat) : Nat :=
  if place ≤ bias then 1 else if bias + 26 ≤ place then 26 else place - bias

def difference (bias : Nat) : (fuel place rest : Nat) → List Char
  | 0, _, _ => []
  | fuel + 1, place, rest =>
      let limit := threshold place bias
      if rest < limit then [digit rest]
      else
        digit (limit + (rest - limit) % (36 - limit)) ::
          difference bias fuel (place + 36) ((rest - limit) / (36 - limit))

/-- Divides a difference down while it is large, and adjusts the bias. -/
def settle : (fuel places rest : Nat) → Nat
  | 0, places, rest => places + 36 * rest / (rest + 38)
  | fuel + 1, places, rest =>
      if 455 < rest then settle fuel (places + 36) (rest / 35)
      else places + 36 * rest / (rest + 38)

/-- The bias for the difference after this one. -/
def adapt (rest written : Nat) (isFirst : Bool) : Nat :=
  let rest := if isFirst then rest / 700 else rest / 2
  settle 64 0 (rest + rest / written)

/-- The digits of one character wherever it stands in the label, in order of the label. -/
def walk (character : Nat) (basic : Nat) :
    List Nat → (gap written bias : Nat) → List Char × Nat × Nat × Nat
  | [], gap, written, bias => ([], gap, written, bias)
  | code :: codes, gap, written, bias =>
      if code < character then walk character basic codes (gap + 1) written bias
      else if code = character then
        let digits := difference bias 64 36 gap
        let next := adapt gap (written + 1) (written == basic)
        let (more, rest) := walk character basic codes 0 (written + 1) next
        (digits ++ more, rest)
      else walk character basic codes gap written bias

/-- The digits of the characters from the given one on, in rising order. -/
def sweep (codes : List Nat) (basic : Nat) :
    (fuel least gap written bias : Nat) → List Char
  | 0, _, _, _, _ => []
  | fuel + 1, least, gap, written, bias =>
      match (codes.filter (least ≤ ·)).min? with
      | none => []
      | some character =>
          let gap := gap + (character - least) * (written + 1)
          let (digits, gap, written, bias) := walk character basic codes gap written bias
          digits ++ sweep codes basic fuel (character + 1) (gap + 1) written bias

def encode (label : List Char) : List Char :=
  let plain := label.filter fun character => character.toNat < 0x80
  let start := if plain.isEmpty then [] else plain ++ ['-']
  start ++ sweep (label.map Char.toNat) plain.length label.length 0x80 0 plain.length 72

def value? (character : Char) : Option Nat :=
  if character.isLower then some (character.toNat - 0x61)
  else if character.isDigit then some (character.toNat - 0x30 + 26)
  else none

/-- Reads a difference from digits of varying weight; also returns the digits after it. -/
def readDifference? (bias : Nat) :
    (place weight : Nat) → List Char → Option (Nat × List Char)
  | _, _, [] => none
  | place, weight, character :: rest => do
      let value ← value? character
      let limit := threshold place bias
      if value < limit then return (value * weight, rest)
      else
        let (more, rest) ← readDifference? bias (place + 36) (weight * (36 - limit)) rest
        return (value * weight + more, rest)

def insertAll? : (fuel : Nat) → (digits : List Char) → (least start bias : Nat) →
    (label : List Char) → Option (List Char)
  | _, [], _, _, _, label => some label
  | 0, _ :: _, _, _, _, _ => none
  | fuel + 1, digits, least, start, bias, label => do
      let (difference, rest) ← readDifference? bias 36 1 digits
      let size := label.length + 1
      let code := least + (start + difference) / size
      let place := (start + difference) % size
      if code.isValidChar then
        insertAll? fuel rest code (place + 1) (adapt difference size (start == 0))
          (label.insertIdx place (Char.ofNat code))
      else none

def decode? (written : List Char) : Option (List Char) :=
  let (digits, plain) := written.reverse.span (· != '-')
  insertAll? digits.length digits.reverse 0x80 0 72 (plain.drop 1).reverse

end Punycode

inductive Host where
  | domain (name : List Char)
  | ipv4 (address : Ipv4)
  | ipv6 (address : Ipv6)
  deriving DecidableEq, Repr

namespace Host

def toChars : Host → List Char
  | .domain name => name
  | .ipv4 address => address.toChars
  | .ipv6 address => '[' :: address.toChars ++ [']']

/-- The character may not stand in a host of any kind. -/
def isForbidden (character : Char) : Bool :=
  ['\x00', '\t', '\n', '\r', ' ', '#', '/', ':', '<', '>', '?', '@', '[', '\\', ']', '^',
    '|'].contains character

/-- The character may not stand in a domain name. -/
def isForbiddenInDomain (character : Char) : Bool :=
  isForbidden character || character.toNat < 0x20 || character = '%' ||
    (0x7F ≤ character.toNat && character.toNat ≤ 0x9F)

/-- The character in the form that domain names are compared in; none if it is dropped. -/
def fold (character : Char) : Option Char :=
  let code := character.toNat
  if 0x41 ≤ code ∧ code ≤ 0x5A then some (Char.ofNat (code + 0x20))
  else if code = 0xAD ∨ code = 0x200B then none
  else if 0xC0 ≤ code ∧ code ≤ 0xDE ∧ code ≠ 0xD7 then some (Char.ofNat (code + 0x20))
  else if 0x391 ≤ code ∧ code ≤ 0x3A9 then some (Char.ofNat (code + 0x20))
  else if 0x400 ≤ code ∧ code ≤ 0x40F then some (Char.ofNat (code + 0x50))
  else if 0x410 ≤ code ∧ code ≤ 0x42F then some (Char.ofNat (code + 0x20))
  else if code = 0x3002 ∨ code = 0xFF61 then some '.'
  else if 0xFF21 ≤ code ∧ code ≤ 0xFF3A then some (Char.ofNat (code - 0xFF21 + 0x61))
  else if 0xFF01 ≤ code ∧ code ≤ 0xFF5E then some (Char.ofNat (code - 0xFF01 + 0x21))
  else some character

/-- What marks the ASCII form of a label with other characters. -/
def asciiMark : List Char := ['x', 'n', '-', '-']

/-- The Punycode stands for a label that needs it, and is the one of that label. -/
def isCanonical (written : List Char) : Bool :=
  match Punycode.decode? written with
  | some label =>
      label.any (0x80 ≤ ·.toNat) && label.all (!isForbiddenInDomain ·) &&
        label.filterMap fold = label && Punycode.encode label = written
  | none => false

/-- The ASCII form of a label, if it has one. -/
def asciiLabel? (label : List Char) : Option (List Char) :=
  match Split.afterPrefix? asciiMark label with
  | some written => if isCanonical written then some label else none
  | none =>
      if label.all (·.toNat < 0x80) then some label
      else some (asciiMark ++ Punycode.encode label)

/-- The ASCII form of a domain name, if it is one. -/
def asciiDomain? (name : List Char) : Option (List Char) :=
  let folded := name.filterMap fold
  if folded.any isForbiddenInDomain then none
  else ((Split.on '.' folded).mapM asciiLabel?).map (Split.join ['.'])

/-- Reads a part of an address of version 4: hexadecimal, octal or decimal. -/
def ipv4Part? (part : List Char) : Option Nat :=
  match part with
  | [] => none
  | ['0'] => some 0
  | '0' :: second :: rest =>
      if second = 'x' ∨ second = 'X' then
        if rest.isEmpty then some 0 else Digits.read? 16 rest
      else Digits.read? 8 (second :: rest)
  | part => Digits.read? 10 part

/-- The parts of a name, an empty last one being dropped. -/
def parts (name : List Char) : List (List Char) :=
  let pieces := Split.on '.' name
  if pieces.getLast? = some [] ∧ 1 < pieces.length then pieces.dropLast else pieces

/-- The name is meant as an address of version 4. -/
def endsInNumber (name : List Char) : Bool :=
  match (parts name).getLast? with
  | none => false
  | some last => (Digits.read? 10 last).isSome || (ipv4Part? last).isSome

/-- Reads an address of version 4 of one to four parts. -/
def ipv4? (name : List Char) : Option Ipv4 := do
  let numbers ← (parts name).mapM ipv4Part?
  let last ← numbers.getLast?
  let leading := numbers.dropLast
  if leading.length ≤ 3 ∧ leading.all (· ≤ 255) ∧ last < Nat.pow 256 (4 - leading.length) then
    return ⟨leading.foldr (fun octet rest => octet * 0x1000000 + rest / 256) 0 + last⟩
  else none

def ofChars (characters : List Char) : Except UrlError Host :=
  match characters with
  | [] => .error .emptyHost
  | '[' :: rest =>
      if rest.getLast? = some ']' then
        match Ipv6.ofChars? 0 rest.dropLast with
        | some address => .ok (.ipv6 address)
        | none => .error .invalidIpv6
      else .error .invalidIpv6
  | _ =>
      match Utf8.decodeChars? 0 (Percent.decode (Utf8.encodeChars characters)) with
      | none => .error .invalidDomain
      | some decoded =>
          match asciiDomain? decoded with
          | none => .error .invalidDomain
          | some [] => .error .emptyHost
          | some name =>
              if endsInNumber name then
                match ipv4? name with
                | some address => .ok (.ipv4 address)
                | none => .error .invalidIpv4
              else .ok (.domain name)

/-- Reads the host of a URL of any other scheme. -/
def ofOpaqueChars (characters : List Char) : Except UrlError Host :=
  match characters with
  | '[' :: rest =>
      if rest.getLast? = some ']' then
        match Ipv6.ofChars? 0 rest.dropLast with
        | some address => .ok (.ipv6 address)
        | none => .error .invalidIpv6
      else .error .invalidIpv6
  | _ =>
      if characters.any isForbidden then .error .invalidDomainCharacter
      else
        .ok (.domain (Percent.encode (fun octet => 0x20 ≤ octet && octet ≤ 0x7E)
          (Utf8.encodeChars characters)))

end Host

end GameCatalog
