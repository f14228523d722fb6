import GameCatalog.Text.Split

/-!
Media types: a type and a subtype, for instance `application/json`, and parameters of
the form `name=value` after semicolons.  Only one question is asked of them, whether
they announce JSON; a text that is not written like a media type announces nothing.
-/

namespace GameCatalog.MediaType

/-- The character may stand in a name. -/
def isToken (character : Char) : Bool :=
  character.isAlphanum || "!#$%&'*+-.^_\x60|~".toList.contains character

/-- The character may stand between quotation marks. -/
def isQuotable (character : Char) : Bool :=
  0x20 ≤ character.toNat && character.toNat < 0x7F

/-- Where a reader of parameters stands. -/
inductive Place where
  | beforeName
  | name
  | beforeValue
  | value
  /-- Behind an opening quotation mark; the next character belongs to the value. -/
  | opening
  | quoted
  | afterQuoted
  deriving DecidableEq, Repr

namespace Place

/-- Where a reader stands after one more character, if that may come next. -/
def advance? (place : Place) (character : Char) : Option Place :=
  match place with
  | beforeName =>
      if character = ' ' then some beforeName else if isToken character then some name else none
  | name =>
      if isToken character then some name
      else if character = '=' then some beforeValue else none
  | beforeValue =>
      if character = '"' then some opening else if isToken character then some value else none
  | value =>
      if isToken character then some value
      else if character = ';' then some beforeName else none
  | opening => if isQuotable character then some quoted else none
  | quoted =>
      if character = '"' then some afterQuoted
      else if isQuotable character then some quoted else none
  | afterQuoted =>
      if character = ';' then some beforeName
      else if character = ' ' then some afterQuoted else none

/-- Parameters may end here. -/
def isEnd : Place → Bool
  | beforeName | beforeValue | value | afterQuoted => true
  | name | opening | quoted => false

end Place

def isParameters (text : List Char) : Bool :=
  match text.foldlM Place.advance? .beforeName with
  | some place => place.isEnd
  | none => false

/-- The names of a subtype: all of it up to its last plus sign, and what follows that. -/
def subtypeNames (subtype : List Char) : List (List Char) :=
  match Split.first? '+' subtype.reverse with
  | some (after, before) =>
      if before.isEmpty then [subtype] else [before.reverse, after.reverse]
  | none => [subtype]

def isJson (text : String) : Bool :=
  match Split.first? '/' (text.toList.map Char.toLower) with
  | none => false
  | some (name, rest) =>
      let (subtype, parameters) := rest.span (· != ';')
      name == "application".toList && subtype.all isToken &&
        (subtypeNames subtype).contains "json".toList && isParameters (parameters.drop 1)

end GameCatalog.MediaType
