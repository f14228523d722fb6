import GameCatalog.Json.Numeral
import GameCatalog.Net.Address
import GameCatalog.Toml.Value

/-!
The TOML values that are written without marks: truth values, numbers and dates.  The
characters that such a value may consist of are taken together first, and the value is
recognised by its form.
-/

namespace GameCatalog.Toml.Scalar

/-- The character may stand in a value without marks. -/
def isPart (character : Char) : Bool :=
  character.isAlphanum || "+-.:_".toList.contains character

/-- The digits between which underscores may stand. -/
def ungrouped? (base : Nat) (text : List Char) : Option (List Char) :=
  let groups := Split.on '_' text
  if groups.all fun group => (Digits.read? base group).isSome then some groups.flatten else none

/-- The sign in front of a number, and the number without it. -/
def splitSign : List Char → Bool × List Char
  | '+' :: rest => (false, rest)
  | '-' :: rest => (true, rest)
  | rest => (false, rest)

/-- The digits of a whole number, which has no leading zeros. -/
def wholeDigits? (text : List Char) : Option (List Char) := do
  let digits ← ungrouped? 10 text
  if digits.head? = some '0' ∧ digits.length ≠ 1 then none else return digits

/-- The integers that are recognised: from -2^127 to below 2^128. -/
def isRecognised (value : Int) : Bool := -Nat.pow 2 127 ≤ value && value < Nat.pow 2 128

def based? : List Char → Option Nat
  | '0' :: 'x' :: rest => do Digits.read? 16 (← ungrouped? 16 rest)
  | '0' :: 'o' :: rest => do Digits.read? 8 (← ungrouped? 8 rest)
  | '0' :: 'b' :: rest => do Digits.read? 2 (← ungrouped? 2 rest)
  | _ => none

def integer? (text : List Char) : Option Int :=
  match based? text with
  | some number => some number
  | none => do
      let (negative, rest) := splitSign text
      let number ← Digits.read? 10 (← wholeDigits? rest)
      return if negative then -(number : Int) else number

def exponent? (text : List Char) : Option Int := do
  let (negative, rest) := splitSign text
  let number ← Digits.read? 10 (← ungrouped? 10 rest)
  return if negative then -(number : Int) else number

def isFinite (text : List Char) : Bool :=
  let (_, rest) := splitSign text
  let (mantissa, marked) := rest.span fun character => character ≠ 'e' && character ≠ 'E'
  let (whole, pointed) := mantissa.span (· != '.')
  let exponent := if marked.isEmpty then some 0 else exponent? (marked.drop 1)
  let places := if pointed.isEmpty then some [] else ungrouped? 10 (pointed.drop 1)
  match wholeDigits? whole, places, exponent with
  | some whole, some places, some exponent =>
      let digits := (Digits.read? 10 (whole ++ places)).getD 0
      (!pointed.isEmpty || !marked.isEmpty) &&
        !Json.Numeral.exceeds digits (exponent - places.length)
  | _, _, _ => false

def isFloat (text : List Char) : Bool :=
  let rest := String.ofList (splitSign text).2
  rest == "inf" || rest == "nan" || isFinite text

def fixed? (count : Nat) (text : List Char) : Option Nat :=
  if text.length = count then Digits.read? 10 text else none

def isLeap (year : Nat) : Bool := year % 4 = 0 && (year % 100 ≠ 0 || year % 400 = 0)

def daysIn (year month : Nat) : Nat :=
  if month = 2 then (if isLeap year then 29 else 28)
  else if [4, 6, 9, 11].contains month then 30
  else 31

def isDate (text : List Char) : Bool :=
  match Split.on '-' text with
  | [year, month, day] =>
      match fixed? 4 year, fixed? 2 month, fixed? 2 day with
      | some year, some month, some day =>
          1 ≤ month && month ≤ 12 && 1 ≤ day && day ≤ daysIn year month
      | _, _, _ => false
  | _ => false

/-- The text is a number of two digits up to a bound. -/
def isUpTo (bound : Nat) (text : List Char) : Bool :=
  match fixed? 2 text with
  | some number => number ≤ bound
  | none => false

/-- The text is a second, to which decimal places may be added. -/
def isSecond (text : List Char) : Bool :=
  match Split.first? '.' text with
  | some (second, places) => isUpTo 60 second && (Digits.read? 10 places).isSome
  | none => isUpTo 60 text

def isTime (text : List Char) : Bool :=
  match Split.on ':' text with
  | [hour, minute] => isUpTo 23 hour && isUpTo 59 minute
  | [hour, minute, second] => isUpTo 23 hour && isUpTo 59 minute && isSecond second
  | _ => false

/-- The text is a time of day, to which its distance from Greenwich may be added. -/
def isZonedTime (text : List Char) : Bool :=
  let front := text.take (text.length - 6)
  let zone := text.drop (text.length - 6)
  isTime text ||
    ((text.getLast? = some 'Z' || text.getLast? = some 'z') && isTime text.dropLast) ||
    (match zone with
      | sign :: distance =>
          (sign = '+' || sign = '-') && distance.length = 5 && isTime distance && isTime front
      | [] => false)

/-- The text is a date, a time of day, or both. -/
def isDateTime (text : List Char) : Bool :=
  isDate text || isTime text ||
    (match text.drop 10 with
      | separator :: time =>
          (separator = 'T' || separator = 't' || separator = ' ') && isDate (text.take 10) &&
            isZonedTime time
      | [] => false)

/-- The value of a text without marks. -/
def ofText? (text : List Char) : Option Value :=
  if text = "true".toList then some (.boolean true)
  else if text = "false".toList then some (.boolean false)
  else
    match integer? text with
    | some value => if isRecognised value then some (.integer value) else none
    | none =>
        if isFloat text then some .float
        else if isDateTime text then some .dateTime
        else none

/--
Takes the characters of a value without marks.  A blank belongs to it if it stands
between a date and a time.
-/
def take (characters : List Char) : List Char × List Char :=
  let (text, rest) := characters.span isPart
  match rest with
  | ' ' :: next :: rest =>
      if next.isDigit && isDate text then
        let (time, rest) := (next :: rest).span isPart
        (text ++ ' ' :: time, rest)
      else (text, ' ' :: next :: rest)
  | _ => (text, rest)

/-- Reads a value without marks. -/
def read? (characters : List Char) : Option (Value × List Char) :=
  let (text, rest) := take characters
  (ofText? text).map (·, rest)

end GameCatalog.Toml.Scalar
