import GameCatalog.Startup.Run

/-!
The command line of the gateway.  It finds the configuration, opens the store, tells
what it does on standard output, and stops when standard input ends.
-/

namespace GameCatalog

def DiskEntry.read (path : String) : IO DiskEntry := do
  try
    return .file ⟨(← IO.FS.readBinFile path).toList, Disk.ownerOnly⟩
  catch
    | .inappropriateType .. => return .directory
    | _ => return .absent

/-- Writes the store file through a temporary file that only its owner may read. -/
def StoredFile.write (path : String) (file : StoredFile) : IO Unit := do
  let temporary := path ++ ".tmp"
  IO.FS.writeBinFile temporary file.content.toByteArray
  let readWrite : IO.AccessRight := { read := true, write := true }
  IO.setAccessRights temporary { user := readWrite }
  IO.FS.rename temporary path

def readEnvironment : IO Environment := do
  let names := ["CONFIG_PATH", "SESSION_SECRET", "LOG_LEVEL", "RUST_LOG"]
  let found ← names.filterMapM fun name => return (← IO.getEnv name).map (name, ·)
  return fun name => found.lookup name

def Surroundings.read (arguments : List String) : IO Surroundings := do
  let environment ← readEnvironment
  let path := Surroundings.configPath { arguments, environment, files := fun _ => .absent }
  let paths := Surroundings.watchedPaths path (← DiskEntry.read path)
  let found ← paths.mapM fun path => return (path, ← DiskEntry.read path)
  return { arguments, environment, files := fun path => (found.lookup path).getD .absent }

/-- Shows entries of the log, one a line. -/
def Surroundings.show (surroundings : Surroundings) (entries : List LogEntry) : IO Unit :=
  for entry in surroundings.shown entries do
    let line : Json :=
      .object [("level", .text entry.level.label), ("target", .text entry.target),
        ("message", .text entry.message)]
    IO.println line.compact

/-- Waits until standard input ends. -/
partial def awaitEnd (input : IO.FS.Stream) : IO Unit := do
  unless (← input.getLine).isEmpty do awaitEnd input

end GameCatalog

open GameCatalog

def main (arguments : List String) : IO UInt32 := do
  let surroundings ← Surroundings.read arguments
  let start := surroundings.start
  if let some (path, disk) := start.disk then
    if let .file file := disk.entry then
      if surroundings.files path = .absent then file.write path
  surroundings.show start.entries
  match start.outcome with
  | .error complaint =>
      IO.eprintln complaint.text
      return 1
  | .ok _ =>
      awaitEnd (← IO.getStdin)
      surroundings.show (Surroundings.endEntries .terminate)
      return 0
