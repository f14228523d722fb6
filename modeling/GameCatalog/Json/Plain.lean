import GameCatalog.Json.Reading
import GameCatalog.Json.Value

/-!
Any JSON value, read without a wish for a kind of value.  Numbers that are not natural
are not told apart: the text of a value has one number in the place of each of them.
-/

namespace GameCatalog.Json.Reading

def name : Reading → String
  | text (.ok found) _ => found
  | _ => ""

mutual

/-- The value that was read; what could not be read, and other numbers, are null. -/
def toJson : Reading → Json
  | bool value => .bool value
  | number (.natural value) => .natural value.toNat
  | text (.ok found) _ => .text found
  | array items _ => .array (itemsToJson items)
  | object members _ => .object (membersToJson members)
  | _ => .null

def itemsToJson : List Reading → List Json
  | [] => []
  | item :: items => item.toJson :: itemsToJson items

def membersToJson : List (Reading × Reading) → List (String × Json)
  | [] => []
  | (label, member) :: members => (label.name, member.toJson) :: membersToJson members

end

mutual

/-- A text that reads as the same value. -/
def toText : Reading → List Char
  | number .other => ['0', '.', '5']
  | number .excessive => ['1', 'e', '9', '9', '9']
  | number (.natural value) => Ascii.decimal value.toNat
  | bool value => (Json.bool value).compactChars
  | text (.ok found) _ => quote found
  | array items _ => '[' :: (itemsToText items ++ [']'])
  | object members _ => '{' :: (membersToText members ++ ['}'])
  | _ => Json.null.compactChars

/-- The texts of items, joined by commas. -/
def itemsToText : List Reading → List Char
  | [] => []
  | [item] => item.toText
  | item :: items => item.toText ++ ',' :: itemsToText items

/-- The texts of members, joined by commas. -/
def membersToText : List (Reading × Reading) → List Char
  | [] => []
  | [(label, member)] => quote label.name ++ ':' :: member.toText
  | (label, member) :: members =>
      quote label.name ++ ':' :: (member.toText ++ ',' :: membersToText members)

end

end GameCatalog.Json.Reading

namespace GameCatalog.Json

/-- The value of a text; null if it does not hold one. -/
def ofOctets (octets : Bytes) : Json :=
  match Reading.ofOctets octets with
  | (reading, .ok _) => reading.toJson
  | (_, .error _) => .null

end GameCatalog.Json
