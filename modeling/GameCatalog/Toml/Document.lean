import GameCatalog.Toml.Node
import GameCatalog.Toml.Scalar
import GameCatalog.Toml.Text

/-!
TOML documents.  A document is read as a list of sections, each a header with the
assignments below it; the sections are then put together into one table.
-/

namespace GameCatalog.Toml

def skipBlanks (characters : List Char) : List Char := characters.dropWhile isBlank

/-- Passes over blanks, line breaks and comments; inside a comment only its end matters. -/
def skipSpace? : (inComment : Bool) → List Char → Option (List Char)
  | _, [] => some []
  | inComment, character :: rest =>
      if character = '\n' then skipSpace? false rest
      else if character = '\r' then
        if rest.head? = some '\n' then skipSpace? inComment rest else none
      else if inComment then
        if isPlain character then skipSpace? true rest else none
      else if isBlank character then skipSpace? false rest
      else if character = '#' then skipSpace? true rest
      else some (character :: rest)

/-- Passes over what may follow in a line: blanks, a comment and the line break. -/
def endLine? : (inComment : Bool) → List Char → Option (List Char)
  | _, [] => some []
  | inComment, character :: rest =>
      if character = '\n' then some rest
      else if character = '\r' then
        if rest.head? = some '\n' then some (rest.drop 1) else none
      else if inComment then
        if isPlain character then endLine? true rest else none
      else if isBlank character then endLine? false rest
      else if character = '#' then endLine? true rest
      else none

/-- The character may stand in a key without marks. -/
def isKeyPart (character : Char) : Bool :=
  character.isAlphanum || character = '_' || character = '-'

def keyPiece? (characters : List Char) : Option (String × List Char) :=
  let (bare, rest) := characters.span isKeyPart
  if bare.isEmpty then (line? characters).map fun (found, rest) => (String.ofList found, rest)
  else some (String.ofList bare, rest)

/-- Reads a key, whose pieces are joined by points, and the blanks after it. -/
def key? : (fuel : Nat) → List Char → Option (List String × List Char)
  | 0, _ => none
  | fuel + 1, characters => do
      let (piece, rest) ← keyPiece? (skipBlanks characters)
      match skipBlanks rest with
      | '.' :: rest =>
          let (pieces, rest) ← key? fuel rest
          return (piece :: pieces, rest)
      | rest => return ([piece], rest)

/-- How deep arrays and tables inside a line may be nested. -/
def maxDepth : Nat := 80

mutual

/-- Reads a value that is nested in at most `depth` further levels. -/
def value? : (fuel depth : Nat) → List Char → Option (Value × List Char)
  | 0, _, _ => none
  | fuel + 1, depth, characters =>
      match characters with
      | '[' :: rest =>
          if depth = 0 then none
          else do
            let rest ← skipSpace? false rest
            let (found, rest) ← items? fuel (depth - 1) rest
            return (.array found, rest)
      | '{' :: rest =>
          if depth = 0 then none
          else do
            let rest ← skipSpace? false rest
            let (found, rest) ← members? fuel (depth - 1) rest
            return (.table (memberValues (← Members.assignAll? [] found)), rest)
      | '"' :: _ => (text? characters).map fun (found, rest) => (.text (String.ofList found), rest)
      | '\'' :: _ => (text? characters).map fun (found, rest) => (.text (String.ofList found), rest)
      | _ => Scalar.read? characters

def items? : (fuel depth : Nat) → List Char → Option (List Value × List Char)
  | 0, _, _ => none
  | _ + 1, _, ']' :: rest => some ([], rest)
  | fuel + 1, depth, characters => do
      let (item, rest) ← value? fuel depth characters
      match ← skipSpace? false rest with
      | ']' :: rest => return ([item], rest)
      | ',' :: rest =>
          let (more, rest) ← items? fuel depth (← skipSpace? false rest)
          return (item :: more, rest)
      | _ => none

/-- Reads the assignments of a table inside a line up to its closing brace. -/
def members? : (fuel depth : Nat) → List Char → Option (List (List String × Value) × List Char)
  | 0, _, _ => none
  | _ + 1, _, '}' :: rest => some ([], rest)
  | fuel + 1, depth, characters => do
      let (key, rest) ← key? (characters.length + 1) characters
      let rest ← Split.afterPrefix? ['='] rest
      let (value, rest) ← value? fuel depth (skipBlanks rest)
      match ← skipSpace? false rest with
      | '}' :: rest => return ([(key, value)], rest)
      | ',' :: rest =>
          let (more, rest) ← members? fuel depth (← skipSpace? false rest)
          return ((key, value) :: more, rest)
      | _ => none

end

inductive Line where
  | header (path : List String)
  | element (path : List String)
  | assignment (path : List String) (value : Value)

/-- Reads a line that is not empty. -/
def statement? (characters : List Char) : Option (Line × List Char) :=
  let fuel := 2 * characters.length + 2
  match characters with
  | '[' :: '[' :: rest => do
      let (path, rest) ← key? fuel rest
      return (.element path, ← endLine? false (← Split.afterPrefix? [']', ']'] rest))
  | '[' :: rest => do
      let (path, rest) ← key? fuel rest
      return (.header path, ← endLine? false (← Split.afterPrefix? [']'] rest))
  | _ => do
      let (path, rest) ← key? fuel characters
      let (value, rest) ← value? fuel maxDepth (skipBlanks (← Split.afterPrefix? ['='] rest))
      return (.assignment path value, ← endLine? false rest)

def lines? : (fuel : Nat) → List Char → Option (List Line)
  | 0, _ => none
  | fuel + 1, characters => do
      match ← skipSpace? false characters with
      | [] => return []
      | rest =>
          let (line, rest) ← statement? rest
          return line :: (← lines? fuel rest)

structure Section where
  path : List String
  /-- The table is a further one of an array. -/
  isElement : Bool
  assignments : List (List String × Value)

/-- The assignments before the first header, and the sections. -/
def sections : List Line → List (List String × Value) × List Section
  | [] => ([], [])
  | .assignment path value :: lines =>
      let (assignments, rest) := sections lines
      ((path, value) :: assignments, rest)
  | .header path :: lines =>
      let (assignments, rest) := sections lines
      ([], ⟨path, false, assignments⟩ :: rest)
  | .element path :: lines =>
      let (assignments, rest) := sections lines
      ([], ⟨path, true, assignments⟩ :: rest)

def Section.place? (part : Section) (name : String) (_ : Origin) (members : Members) :
    Option Members :=
  if part.isElement then do
    let made ← Members.assignAll? [] part.assignments
    match members.lookup name with
    | none => return members ++ [(name, .tables [] made)]
    | some (.tables earlier last) =>
        return members.replace name (.tables (earlier ++ [last]) made)
    | some _ => none
  else
    match members.lookup name with
    | none => do
        let made ← Members.assignAll? [] part.assignments
        return members ++ [(name, .table .header made)]
    | some (.table .inner inside) => do
        let made ← Members.assignAll? inside part.assignments
        return members.replace name (.table .header made)
    | some _ => none

def Section.add? (part : Section) (members : Members) : Option Members := do
  let name ← part.path.getLast?
  members.descend? false (part.place? name) part.path.dropLast .header

/-- The text without the mark that may introduce it. -/
def dropByteOrderMark : List Char → List Char
  | '\uFEFF' :: rest => rest
  | characters => characters

def read? (text : String) : Option Value := do
  let characters := dropByteOrderMark text.toList
  let (assignments, parts) := sections (← lines? (characters.length + 1) characters)
  let first ← Members.assignAll? [] assignments
  let members ← parts.foldlM (fun members part => part.add? members) first
  return .table (memberValues members)

end GameCatalog.Toml
