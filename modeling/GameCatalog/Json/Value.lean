import GameCatalog.Text.Ascii

/-!
The JSON values that this library writes, and their two written forms: `compact`
without any blanks, and `pretty` with one member or item a line, indented by two
spaces a level.  Members keep their order.
-/

namespace GameCatalog

inductive Json where
  | null
  | bool (value : Bool)
  | natural (value : Nat)
  | text (value : String)
  | array (items : List Json)
  | object (members : List (String × Json))
  deriving Inhabited, Repr

namespace Json

/-- The value of something that may be absent. -/
def optional {Value : Type} (write : Value → Json) : Option Value → Json
  | some value => write value
  | none => null

/-- A member that is left out when its value is absent. -/
def member? {Value : Type} (name : String) (write : Value → Json) :
    Option Value → List (String × Json)
  | some value => [(name, write value)]
  | none => []

def escape (character : Char) : List Char :=
  if character = '"' then ['\\', '"']
  else if character = '\\' then ['\\', '\\']
  else if character = '\n' then ['\\', 'n']
  else if character = '\r' then ['\\', 'r']
  else if character = '\t' then ['\\', 't']
  else if character = '\x08' then ['\\', 'b']
  else if character = '\x0c' then ['\\', 'f']
  else if character.toNat < 0x20 then
    ['\\', 'u', '0', '0', Ascii.hexDigit (character.toNat / 16),
      Ascii.hexDigit (character.toNat % 16)]
  else [character]

/-- The written form of a text, with its quotation marks. -/
def quote (text : String) : List Char :=
  '"' :: (text.toList.flatMap escape ++ ['"'])

def lineBreak (level : Nat) : List Char :=
  '\n' :: List.replicate (2 * level) ' '

mutual

/-- The written form without blanks. -/
def compactChars : Json → List Char
  | null => ['n', 'u', 'l', 'l']
  | bool true => ['t', 'r', 'u', 'e']
  | bool false => ['f', 'a', 'l', 's', 'e']
  | natural value => Ascii.decimal value
  | text value => quote value
  | array items => '[' :: (compactItems items ++ [']'])
  | object members => '{' :: (compactMembers members ++ ['}'])

/-- The items of an array, joined by commas. -/
def compactItems : List Json → List Char
  | [] => []
  | [item] => compactChars item
  | item :: items => compactChars item ++ ',' :: compactItems items

/-- The members of an object, joined by commas. -/
def compactMembers : List (String × Json) → List Char
  | [] => []
  | [(name, value)] => quote name ++ ':' :: compactChars value
  | (name, value) :: members =>
      quote name ++ ':' :: (compactChars value ++ ',' :: compactMembers members)

end

mutual

def prettyChars (level : Nat) : Json → List Char
  | array [] => ['[', ']']
  | array items => '[' :: (prettyItems (level + 1) items ++ lineBreak level ++ [']'])
  | object [] => ['{', '}']
  | object members => '{' :: (prettyMembers (level + 1) members ++ lineBreak level ++ ['}'])
  | null => ['n', 'u', 'l', 'l']
  | bool true => ['t', 'r', 'u', 'e']
  | bool false => ['f', 'a', 'l', 's', 'e']
  | natural value => Ascii.decimal value
  | text value => quote value

/-- The items of an array, each on a line of its own. -/
def prettyItems (level : Nat) : List Json → List Char
  | [] => []
  | [item] => lineBreak level ++ prettyChars level item
  | item :: items => lineBreak level ++ prettyChars level item ++ ',' :: prettyItems level items

/-- The members of an object, each on a line of its own. -/
def prettyMembers (level : Nat) : List (String × Json) → List Char
  | [] => []
  | [(name, value)] => lineBreak level ++ quote name ++ ':' :: ' ' :: prettyChars level value
  | (name, value) :: members =>
      lineBreak level ++ quote name ++ ':' :: ' ' :: (prettyChars level value ++
        ',' :: prettyMembers level members)

end

/-- The written form without blanks, as a string. -/
def compact (value : Json) : String :=
  String.ofList (compactChars value)

/-- The indented form, as a string. -/
def pretty (value : Json) : String :=
  String.ofList (prettyChars 0 value)

end Json

end GameCatalog
