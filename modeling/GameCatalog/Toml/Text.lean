import GameCatalog.Net.Address

/-!
TOML texts.  A text stands between quotation marks, in which a backslash begins an
escape, or between apostrophes, in which every character stands for itself; three
marks in a row begin a text that may have several lines.  Each reader begins behind
the opening marks and returns what follows the closing ones.
-/

namespace GameCatalog.Toml

/-- The character may stand in a text or a comment as it is. -/
def isPlain (character : Char) : Bool :=
  character = '\t' || (0x20 ≤ character.toNat && character.toNat ≠ 0x7F)

def isBlank (character : Char) : Bool := character = ' ' || character = '\t'

def afterLineBreak? : List Char → Option (List Char)
  | '\n' :: rest => some rest
  | '\r' :: '\n' :: rest => some rest
  | _ => none

/-- How many characters at the beginning are blanks or belong to line breaks. -/
def spaceLength : List Char → Nat
  | ' ' :: rest => spaceLength rest + 1
  | '\t' :: rest => spaceLength rest + 1
  | '\n' :: rest => spaceLength rest + 1
  | '\r' :: '\n' :: rest => spaceLength rest + 2
  | _ => 0

def prepend (character : Char) (read : List Char × List Char) : List Char × List Char :=
  (character :: read.1, read.2)

def numbered? (digits : List Char) : Option Char := do
  let number ← Digits.read? 16 digits
  if number.isValidChar then return Char.ofNat number else none

/-- The character of an escape, and how many characters follow the backslash. -/
def escape? : List Char → Option (Char × Nat)
  | 'b' :: _ => some ('\x08', 1)
  | 't' :: _ => some ('\t', 1)
  | 'n' :: _ => some ('\n', 1)
  | 'f' :: _ => some ('\x0c', 1)
  | 'r' :: _ => some ('\r', 1)
  | 'e' :: _ => some ('\x1b', 1)
  | '"' :: _ => some ('"', 1)
  | '\\' :: _ => some ('\\', 1)
  | 'x' :: a :: b :: _ => (numbered? [a, b]).map (·, 3)
  | 'u' :: a :: b :: c :: d :: _ => (numbered? [a, b, c, d]).map (·, 5)
  | 'U' :: a :: b :: c :: d :: e :: f :: g :: h :: _ =>
      (numbered? [a, b, c, d, e, f, g, h]).map (·, 9)
  | _ => none

/-- Reads a text of one line, the leading `skipped` characters being already read. -/
def quoted : (skipped : Nat) → List Char → Option (List Char × List Char)
  | _, [] => none
  | skipped + 1, _ :: rest => quoted skipped rest
  | 0, character :: rest =>
      if character = '"' then some ([], rest)
      else if character = '\\' then do
        let (found, length) ← escape? rest
        return prepend found (← quoted length rest)
      else if isPlain character then (quoted 0 rest).map (prepend character)
      else none

/-- Reads a text of one line without escapes. -/
def literal : List Char → Option (List Char × List Char)
  | [] => none
  | character :: rest =>
      if character = '\'' then some ([], rest)
      else if isPlain character then (literal rest).map (prepend character)
      else none

/-- How many times a mark stands at the beginning. -/
def markCount (mark : Char) (characters : List Char) : Nat :=
  (characters.takeWhile (· == mark)).length

/--
The end of a text of several lines, given the marks that it ends with: three of them
close it, and up to two before those belong to the text.
-/
def closing? (mark : Char) (count : Nat) (rest : List Char) :
    Option (List Char × List Char) :=
  if count ≤ 5 then some (List.replicate (count - 3) mark, rest.drop count) else none

/-- The character may stand in a text of several lines, given what follows it. -/
def isPlainInLines (character : Char) (rest : List Char) : Bool :=
  isPlain character || character = '\n' || (character = '\r' && rest.head? = some '\n')

/--
How many characters after a backslash at the end of a line are passed over: all
blanks and line breaks.
-/
def joinLength? (rest : List Char) : Option Nat :=
  if (afterLineBreak? (rest.dropWhile isBlank)).isSome then some (spaceLength rest) else none

/-- Reads a text of several lines, the leading `skipped` characters being already read. -/
def quotedLines : (skipped : Nat) → List Char → Option (List Char × List Char)
  | _, [] => none
  | skipped + 1, _ :: rest => quotedLines skipped rest
  | 0, character :: rest =>
      let marks := markCount '"' (character :: rest)
      if 3 ≤ marks then closing? '"' marks (character :: rest)
      else if character = '\\' then
        match joinLength? rest with
        | some length => quotedLines length rest
        | none => do
            let (found, length) ← escape? rest
            return prepend found (← quotedLines length rest)
      else if isPlainInLines character rest then
        (quotedLines 0 rest).map (prepend character)
      else none

/-- Reads a text of several lines without escapes. -/
def literalLines : List Char → Option (List Char × List Char)
  | [] => none
  | character :: rest =>
      let marks := markCount '\'' (character :: rest)
      if 3 ≤ marks then closing? '\'' marks (character :: rest)
      else if isPlainInLines character rest then (literalLines rest).map (prepend character)
      else none

/-- The characters without a line break at the beginning. -/
def dropLineBreak (characters : List Char) : List Char :=
  (afterLineBreak? characters).getD characters

/-- Reads a text of one line, marks included. -/
def line? : List Char → Option (List Char × List Char)
  | '"' :: rest => quoted 0 rest
  | '\'' :: rest => literal rest
  | _ => none

/-- Reads a text, marks included. -/
def text? (characters : List Char) : Option (List Char × List Char) :=
  match characters with
  | '"' :: '"' :: '"' :: rest => quotedLines 0 (dropLineBreak rest)
  | '\'' :: '\'' :: '\'' :: rest => literalLines (dropLineBreak rest)
  | _ => line? characters

end GameCatalog.Toml
