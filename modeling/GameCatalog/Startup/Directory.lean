import GameCatalog.Configuration.Load
import GameCatalog.Text.Split

/-!
A directory of text files.  Paths lead into it by its own name or from inside it, and
a path that leads out of it finds nothing.
-/

namespace GameCatalog

/-- A directory: its own name, and the names and texts of its files. -/
structure Directory where
  name : String
  files : List (String × String)

namespace Directory

/-- The names that lead on from a directory, given those that led into it. -/
def follow? (names : List String) (piece : String) : Option (List String) :=
  if piece = "" ∨ piece = "." then some names
  else if piece = ".." then
    if names.isEmpty then none else some names.dropLast
  else some (names ++ [piece])

def names? (directory : Directory) (path : String) : Option (List String) :=
  match (Split.on '/' path.toList).map String.ofList with
  | [] => none
  | [""] => none
  | "" :: _ => none
  | first :: rest =>
      if first = directory.name then rest.foldlM follow? []
      else (first :: rest).foldlM follow? []

def lookUp (directory : Directory) : Files := fun path =>
  match directory.names? path with
  | none => .absent
  | some [] => .directory
  | some names =>
      let name := String.intercalate "/" names
      match directory.files.lookup name with
      | some text => .file ⟨Utf8.encode text, 0o644⟩
      | none =>
          let within := (name ++ "/").toList
          if directory.files.any fun file => (Split.afterPrefix? within file.1.toList).isSome then
            .directory
          else .absent

end Directory

end GameCatalog
