import GameCatalog.Net.Host

/-!
URLs, as browsers read them: blanks at the ends and line breaks anywhere are dropped,
schemes and domain names are brought to small letters, default ports and dot segments
disappear, and characters that may not stand in a part are percent-encoded.
-/

namespace GameCatalog

inductive UrlPath where
  /-- Anything, for a scheme that names no hosts. -/
  | opaquePath (text : List Char)
  /-- Segments, each after a slash. -/
  | segments (segments : List (List Char))
  deriving DecidableEq, Repr

structure Authority where
  user : List Char
  password : List Char
  host : Host
  port : Option Nat
  deriving DecidableEq, Repr

structure Url where
  scheme : List Char
  authority : Option Authority
  path : UrlPath
  query : Option (List Char)
  fragment : Option (List Char)
  deriving DecidableEq, Repr

namespace Url

/-- The octet is a control, or outside ASCII. -/
def isControl (octet : UInt8) : Bool := octet < 0x20 || 0x7E < octet

/-- The octet may stand in a fragment. -/
def keepsInFragment (octet : UInt8) : Bool :=
  !isControl octet && !(Ascii.octets " \"<>\x60").contains octet

/-- The octet may stand in a path. -/
def keepsInPath (octet : UInt8) : Bool :=
  keepsInFragment octet && !(Ascii.octets "#?\x7b\x7d").contains octet

/-- The octet may stand in the user part. -/
def keepsInUser (octet : UInt8) : Bool :=
  keepsInPath octet && !(Ascii.octets "/:;=@[\\]^|").contains octet

/-- The octet may stand in a query. -/
def keepsInQuery (special : Bool) (octet : UInt8) : Bool :=
  !isControl octet && !(Ascii.octets " \"#<>").contains octet && !(special && octet == 0x27)

/-- Percent-encodes what may not stand in a part. -/
def encodePart (keeps : UInt8 → Bool) (part : List Char) : List Char :=
  Percent.encode keeps (Utf8.encodeChars part)

/-- The port that a scheme uses when none is named. -/
def defaultPort? (scheme : String) : Option Nat :=
  if scheme = "http" ∨ scheme = "ws" then some 80
  else if scheme = "https" ∨ scheme = "wss" then some 443
  else if scheme = "ftp" then some 21
  else none

def isSpecial (scheme : String) : Bool := (defaultPort? scheme).isSome

/-- The scheme at the beginning of a text, in small letters, and what follows its colon. -/
def splitScheme? (text : List Char) : Option (List Char × List Char) := do
  let (scheme, rest) ← Split.first? ':' text
  let first ← scheme.head?
  if first.isAlpha ∧
      scheme.all fun character =>
        character.isAlphanum || character = '+' || character = '-' || character = '.' then
    return (scheme.map Char.toLower, rest)
  else none

/-- What stands before the first character that ends an authority, and the rest. -/
def splitAuthority (special : Bool) (text : List Char) : List Char × List Char :=
  text.span fun character =>
    character ≠ '/' && character ≠ '?' && character ≠ '#' && !(special && character = '\\')

/-- What stands before and after the last separator, if there is one. -/
def splitLast? (separator : Char) (text : List Char) : Option (List Char × List Char) :=
  (Split.first? separator text.reverse).map fun (after, before) => (before.reverse, after.reverse)

/-- The host and what follows its colon; a colon inside brackets belongs to the host. -/
def splitPort (inBrackets : Bool) : List Char → List Char × Option (List Char)
  | [] => ([], none)
  | character :: rest =>
      if character = ':' ∧ !inBrackets then ([], some rest)
      else
        let inside :=
          if character = '[' then true else if character = ']' then false else inBrackets
        let (host, port) := splitPort inside rest
        (character :: host, port)

def readPort (scheme : String) (text : List Char) : Except UrlError (Option Nat) :=
  if text.isEmpty then .ok none
  else
    match SocketAddress.readBelow? UInt16.size text with
    | some port => .ok (if defaultPort? scheme = some port then none else some port)
    | none => .error .invalidPort

/-- The user before the last at sign, if there is one, and what follows. -/
def splitUser (text : List Char) : Except UrlError (List Char × List Char) :=
  match splitLast? '@' text with
  | none => .ok ([], text)
  | some (user, rest) => if rest.isEmpty then .error .emptyHost else .ok (user, rest)

def readHost (special : Bool) (text : List Char) : Except UrlError Host :=
  if special then Host.ofChars text else Host.ofOpaqueChars text

def readAuthority (scheme : String) (text : List Char) : Except UrlError Authority := do
  let special := isSpecial scheme
  let (user, hostAndPort) ← splitUser text
  let (name, password) := (Split.first? ':' user).getD (user, [])
  let (hostText, portText) := splitPort false hostAndPort
  let host ← readHost special hostText
  if host = .domain [] ∧ (special ∨ portText.isSome ∨ !user.isEmpty) then throw .emptyHost
  let port ← readPort scheme (portText.getD [])
  return ⟨encodePart keepsInUser name, encodePart keepsInUser password, host, port⟩

def splitSegments (special : Bool) : List Char → List (List Char)
  | [] => [[]]
  | character :: rest =>
      if character = '/' ∨ (special ∧ character = '\\') then [] :: splitSegments special rest
      else
        match splitSegments special rest with
        | segment :: segments => (character :: segment) :: segments
        | [] => [[character]]

def isSingleDot (segment : List Char) : Bool :=
  [".", "%2e"].contains (String.ofList (segment.map Char.toLower))

def isDoubleDot (segment : List Char) : Bool :=
  ["..", ".%2e", "%2e.", "%2e%2e"].contains (String.ofList (segment.map Char.toLower))

/-- Works dot segments off; `above` holds the segments kept so far, the last one first. -/
def resolve (above : List (List Char)) : List (List Char) → List (List Char)
  | [] => above.reverse
  | segment :: rest =>
      if isDoubleDot segment then
        resolve (if rest.isEmpty then [] :: above.drop 1 else above.drop 1) rest
      else if isSingleDot segment then
        resolve (if rest.isEmpty then [] :: above else above) rest
      else resolve (encodePart keepsInPath segment :: above) rest

/-- Reads a path that begins with a slash, or is empty. -/
def readPath (special : Bool) (text : List Char) : UrlPath :=
  match text with
  | [] => .segments (if special then [[]] else [])
  | _ :: rest => .segments (resolve [] (splitSegments special rest))

/-- The path, the query and the fragment of what follows an authority. -/
def splitTail (text : List Char) : List Char × Option (List Char) × Option (List Char) :=
  let (front, fragment) :=
    match Split.first? '#' text with
    | some (front, fragment) => (front, some fragment)
    | none => (text, none)
  match Split.first? '?' front with
  | some (path, query) => (path, some query, fragment)
  | none => (front, none, fragment)

def isEdge (character : Char) : Bool := character.toNat ≤ 0x20

/-- The text without the characters that are dropped. -/
def clean (text : List Char) : List Char :=
  let trimmed := ((text.dropWhile isEdge).reverse.dropWhile isEdge).reverse
  trimmed.filter fun character =>
    character ≠ '\t' && character ≠ '\n' && character ≠ '\r'

/-- The character is a slash of either kind. -/
def isSlash (character : Char) : Bool := character = '/' || character = '\\'

/-- The two slashes that an authority follows; network schemes take any number of them. -/
def afterSlashes? (special : Bool) (text : List Char) : Option (List Char) :=
  if special then some (text.dropWhile isSlash)
  else Split.afterPrefix? ['/', '/'] text

def assemble (scheme : List Char) (special : Bool) (authority : Option Authority)
    (path : UrlPath) (query fragment : Option (List Char)) : Url where
  scheme := scheme
  authority := authority
  path := path
  query := query.map (encodePart (keepsInQuery special))
  fragment := fragment.map (encodePart keepsInFragment)

/-- The host of a file URL; the local machine needs no name. -/
def readFileHost (text : List Char) : Except UrlError Authority := do
  if text.isEmpty then return ⟨[], [], .domain [], none⟩
  let host ← Host.ofChars text
  return ⟨[], [], if host = .domain "localhost".toList then .domain [] else host, none⟩

def ofText (text : String) : Except UrlError Url := do
  let some (scheme, rest) := splitScheme? (clean text.toList) | throw .relative
  let name := String.ofList scheme
  if name = "file" then
    if 2 ≤ (rest.takeWhile isSlash).length then
      let (authorityText, rest) := splitAuthority true (rest.drop 2)
      let authority ← readFileHost authorityText
      let (path, query, fragment) := splitTail rest
      return assemble scheme true (some authority) (readPath true path) query fragment
    else
      let (path, query, fragment) := splitTail rest
      let path := if path.head?.any isSlash then path else '/' :: path
      return assemble scheme true (some ⟨[], [], .domain [], none⟩) (readPath true path) query
        fragment
  else
    let special := isSpecial name
    match afterSlashes? special rest with
    | some rest =>
        let (authorityText, rest) := splitAuthority special rest
        let authority ← readAuthority name authorityText
        let (path, query, fragment) := splitTail rest
        return assemble scheme special (some authority) (readPath special path) query fragment
    | none =>
        let (path, query, fragment) := splitTail rest
        if path.head? = some '/' then
          return assemble scheme special none (readPath special path) query fragment
        else
          return assemble scheme special none
            (.opaquePath (encodePart (fun octet => !isControl octet) path)) query fragment

/-- The text of an authority, after its two slashes. -/
def authorityChars (authority : Authority) : List Char :=
  let password := if authority.password.isEmpty then [] else ':' :: authority.password
  let user := authority.user ++ password
  let user := if user.isEmpty then [] else user ++ ['@']
  let port :=
    match authority.port with
    | some port => ':' :: Ascii.decimal port
    | none => []
  user ++ authority.host.toChars ++ port

def pathChars : UrlPath → List Char
  | .opaquePath text => text
  | .segments segments => segments.flatMap ('/' :: ·)

/-- What keeps a path that begins with two slashes from being taken for an authority. -/
def fenceChars : UrlPath → List Char
  | .segments ([] :: _ :: _) => ['/', '.']
  | _ => []

def frontChars (url : Url) : List Char :=
  url.scheme ++ ':' ::
    ((match url.authority with
      | some authority => '/' :: '/' :: authorityChars authority
      | none => fenceChars url.path) ++ pathChars url.path)

/-- The text of a part that a mark introduces, if the part is there. -/
def markedChars (mark : Char) : Option (List Char) → List Char
  | some part => mark :: part
  | none => []

def toChars (url : Url) : List Char :=
  frontChars url ++ markedChars '?' url.query ++ markedChars '#' url.fragment

def toText (url : Url) : String := String.ofList url.toChars

def addQuery (url : Url) (added : List Char) : Url :=
  { url with
    query :=
      match url.query with
      | none => some added
      | some [] => some added
      | some query => some (query ++ '&' :: added) }

/-- The URL without the user that it names. -/
def withoutUser (url : Url) : Url :=
  { url with authority := url.authority.map fun authority =>
      { authority with user := [], password := [] } }

end Url

end GameCatalog
