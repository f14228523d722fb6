import GameCatalog.Identifier
import GameCatalog.Text.Hidden

/-!
The rendering of values for logs.  A record shows its name and its fields in braces,
a text stands in quotation marks with its unprintable characters replaced by their
numbers, and a value that may be absent is `Some` of it or `None`.
-/

namespace GameCatalog.Inspect

def character (character : Char) : List Char :=
  if character = '\x00' then ['\\', '0']
  else if character = '\t' then ['\\', 't']
  else if character = '\n' then ['\\', 'n']
  else if character = '\r' then ['\\', 'r']
  else if character = '"' then ['\\', '"']
  else if character = '\\' then ['\\', '\\']
  else if Hidden.isHidden character then
    ['\\', 'u', '\x7b'] ++ Nat.toDigits 16 character.toNat ++ ['\x7d']
  else [character]

def text (text : String) : String :=
  String.ofList ('"' :: (text.toList.flatMap character ++ ['"']))

def natural (number : Nat) : String :=
  String.ofList (Ascii.decimal number)

def join (renderings : List String) : String :=
  String.intercalate ", " renderings

/-- The rendering of a value that may be absent. -/
def optional {Value : Type} (render : Value → String) : Option Value → String
  | some value => "Some(" ++ render value ++ ")"
  | none => "None"

def list {Value : Type} (render : Value → String) (values : List Value) : String :=
  "[" ++ join (values.map render) ++ "]"

/-- The rendering of a value that wraps another one. -/
def wrapper (name content : String) : String :=
  name ++ "(" ++ content ++ ")"

def record (name : String) (fields : List (String × String)) : String :=
  name ++ " \x7b " ++ join (fields.map fun field => field.1 ++ ": " ++ field.2) ++ " \x7d"

end GameCatalog.Inspect

namespace GameCatalog

/-- The name that the identifiers of a kind of record have in logs, if they have one. -/
def Entity.inspectName? : Entity → Option String
  | .user => some "UserId"
  | .edition => some "EditionId"
  | .game => some "GameId"
  | .gameFile => none
  | .productKey => some "ProductKeyId"
  | .launcherSession => some "LauncherSessionId"

def Id.inspect {entity : Entity} (id : Id entity) : String :=
  match entity.inspectName? with
  | some name => Inspect.wrapper name id.toText
  | none => id.toText

end GameCatalog
