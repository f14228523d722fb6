import GameCatalog.Text.Utf8

/-!
The part of the disk that the store lives on: its file, the directory of the file, and
the temporary file that a write goes through.  A write first fills the temporary file,
then restricts who may read it, and then renames it over the store file; it can be
refused at each of these steps, and only a write that passes all of them touches the
store file.
-/

namespace GameCatalog

/-- A file: its octets and its permissions. -/
structure StoredFile where
  content : Bytes
  mode : Nat
  deriving DecidableEq

/-- What lies where the store file is expected. -/
inductive DiskEntry where
  | absent
  | file (file : StoredFile)
  | directory
  deriving DecidableEq

inductive WriteStep where
  | parent
  | temporary
  | permissions
  | rename
  deriving DecidableEq, Repr

/-- A step at which writes are refused, and the reason given for it. -/
structure Refusal where
  step : WriteStep
  reason : String
  deriving DecidableEq, Repr

structure Disk where
  reachable : Bool := true
  entry : DiskEntry := .absent
  /-- The temporary file that a refused write left behind. -/
  leftover : Option Bytes := none
  refusal : Option Refusal := none
  deriving DecidableEq

namespace Disk

/-- The permissions of the store file: its owner reads and writes it, no one else. -/
def ownerOnly : Nat := 0o600

/-- The reason given for a path whose directory does not exist. -/
def noSuchFile : String := "No such file or directory (os error 2)"

def isADirectory : String := "Is a directory (os error 21)"

def refusal? (disk : Disk) : Option Refusal :=
  match disk.refusal with
  | some refusal => some refusal
  | none =>
      if !disk.reachable then some ⟨.temporary, noSuchFile⟩
      else if disk.entry = .directory then some ⟨.rename, isADirectory⟩
      else none

/-- Writes the store file, or says at which step the write was refused. -/
def write (disk : Disk) (content : Bytes) : Except Refusal Unit × Disk :=
  match disk.refusal? with
  | none =>
      (.ok (), { disk with entry := .file ⟨content, ownerOnly⟩, leftover := none })
  | some refusal =>
      match refusal.step with
      | .parent | .temporary => (.error refusal, disk)
      | .permissions | .rename => (.error refusal, { disk with leftover := some content })

/-- The store file, if it is there and is a file. -/
def file? (disk : Disk) : Option StoredFile :=
  match disk.entry with
  | .file file => some file
  | _ => none

def entryCount (disk : Disk) : Nat :=
  (if disk.entry = .absent then 0 else 1) + (if disk.leftover.isSome then 1 else 0)

/-- The disk after the directory was removed with all that is in it. -/
def removeDirectory (disk : Disk) : Disk :=
  { disk with reachable := false, entry := .absent, leftover := none }

/-- The disk after the directory was made again. -/
def makeDirectory (disk : Disk) : Disk :=
  { disk with reachable := true }

/-- The disk after a directory took the place of the store file. -/
def blockFile (disk : Disk) : Disk :=
  { disk with entry := .directory }

end Disk

end GameCatalog
