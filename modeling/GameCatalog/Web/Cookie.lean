import GameCatalog.Digest.Hmac
import GameCatalog.Text.Base64
import GameCatalog.Text.Blank
import GameCatalog.Text.Percent
import GameCatalog.Time
import GameCatalog.Web.Date
import GameCatalog.Web.Message

/-!
Cookies and their signatures.  A signed value is preceded by its authentication code,
so that a value which the gateway did not issue is told from one which it did; names
and values are percent-encoded on their way to the browser and back.
-/

namespace GameCatalog.Cookie

/-- The octet stands for itself in a cookie. -/
def keeps (octet : UInt8) : Bool :=
  0x20 < octet && octet < 0x7F && !(Ascii.octets "\"<>\x60#?\x7b\x7d/:;=@[\\]^|%(),").contains octet

def encodeText (text : String) : List Char :=
  Percent.encode keeps (Utf8.encode text)

def decodeText? (text : List Char) : Option String :=
  Utf8.decode? (Percent.decode (Utf8.encodeChars text))

def encodePair (name value : String) : String :=
  String.ofList (encodeText name ++ '=' :: encodeText value)

def decodePair? (text : List Char) : Option (String × String) := do
  let (name, value) ← Split.first? '=' text
  let name := Blank.trimChars name
  if name.isEmpty then none
  else return (← decodeText? name, ← decodeText? (Blank.trimChars value))

/-- The cookies of a request, in order. -/
def ofRequest (request : Request) : List (String × String) :=
  (request.headers? "cookie").flatMap fun header =>
    (Split.on ';' header.toList).filterMap decodePair?

/-- The length of an authentication code in base 64. -/
def codeLength : Nat := 44

def keyPurpose : Bytes :=
  Ascii.octets "COOKIE;SIGNED:HMAC-SHA256;PRIVATE:AEAD-AES-256-GCM"

def signingKey (secret : Bytes) : Bytes := Hmac.expand secret keyPurpose

def sign (key : Bytes) (value : String) : String :=
  String.ofList (Base64.encode Base64.standard (Hmac.code key (Utf8.encode value))) ++ value

/-- The value behind its authentication code, if the code is the right one. -/
def verify? (key : Bytes) (signed : String) : Option String := do
  let octets := Utf8.encode signed
  if octets.length < codeLength then none
  else
    let written := (octets.take codeLength).map fun octet => Char.ofNat octet.toNat
    let code ← Base64.decode? Base64.standard written
    let value := octets.drop codeLength
    if code = Hmac.code key value then Utf8.decode? value else none

def keptAttributes (secure : Bool) (maxAge : Nat) : String :=
  "; HttpOnly; SameSite=Lax" ++ (if secure then "; Secure" else "") ++ "; Path=/; Max-Age=" ++
    String.ofList (Ascii.decimal maxAge)

/-- The name with its value, and the attributes, of a header that sets a cookie. -/
def splitHeader (header : String) : String × String :=
  match Split.first? ';' header.toList with
  | some (pair, attributes) =>
      (String.ofList pair, String.ofList (Blank.trimChars attributes))
  | none => (header, "")

/-- How far in the past the end of a removed cookie lies, in seconds. -/
def removalAge : Int := 365 * 86400

def removedAttributes (now : Instant) : String :=
  "; Path=/; Max-Age=0; Expires=" ++ Date.text ((now.toNat / 1000 : Nat) - removalAge)

end GameCatalog.Cookie
