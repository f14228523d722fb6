/-!
Cutting a sequence of characters into pieces.
-/

namespace GameCatalog.Split

def on (separator : Char) : List Char → List (List Char)
  | [] => [[]]
  | character :: rest =>
      if character = separator then [] :: on separator rest
      else
        match on separator rest with
        | piece :: pieces => (character :: piece) :: pieces
        | [] => [[character]]

/-- What stands before and after the first separator, if there is one. -/
def first? (separator : Char) : List Char → Option (List Char × List Char)
  | [] => none
  | character :: rest =>
      if character = separator then some ([], rest)
      else (first? separator rest).map fun (before, after) => (character :: before, after)

/-- What stands before and after the first pair of separators, if there is one. -/
def firstPair? (separator : Char) : List Char → Option (List Char × List Char)
  | first :: second :: rest =>
      if first = separator ∧ second = separator then some ([], rest)
      else
        (firstPair? separator (second :: rest)).map fun (before, after) =>
          (first :: before, after)
  | _ => none

/-- Pieces joined by a separator. -/
def join (separator : List Char) : List (List Char) → List Char
  | [] => []
  | [piece] => piece
  | piece :: pieces => piece ++ separator ++ join separator pieces

/-- What follows the given beginning, if the characters have it. -/
def afterPrefix? : (beginning : List Char) → List Char → Option (List Char)
  | [], rest => some rest
  | _ :: _, [] => none
  | expected :: beginning, character :: rest =>
      if character = expected then afterPrefix? beginning rest else none

end GameCatalog.Split
