import GameCatalog.Store.Disk
import GameCatalog.Store.Document

/-!
The store: the document in memory and the disk it is kept on.  A mutation is applied
to a copy of the document; the copy is written, and only a copy that was written
becomes the live document.  A refused write therefore changes neither the document in
memory nor the store file.
-/

namespace GameCatalog

/-- Why the store cannot do what was asked. -/
inductive StoreError where
  /-- The disk refused; the reason is for operators. -/
  | io (reason : String)
  /-- The store file does not hold a document. -/
  | parse (reason : String)
  /-- There is no such record. -/
  | notFound (what : String)
  deriving DecidableEq, Repr

namespace StoreError

def message : StoreError → String
  | .io reason => "I/O error: " ++ reason
  | .parse reason => "store parse error: " ++ reason
  | .notFound what => "not found: " ++ what

end StoreError

/-- The reason for which a write was refused, in full. -/
def Refusal.describe (refusal : Refusal) : String :=
  match refusal.step with
  | .parent => "store path has no parent directory"
  | .temporary => "writing temp store file: " ++ refusal.reason
  | .permissions => "setting store file permissions: " ++ refusal.reason
  | .rename => "renaming temp store file: " ++ refusal.reason

structure Store where
  live : Document
  disk : Disk
  deriving DecidableEq

namespace Store

/-- What a mutation does to a document: it fails, or yields a result and the next document. -/
abbrev Change (Result : Type) := Document → Except StoreError (Result × Document)

/-- The outcome of an operation on the store, and the store after it. -/
abbrev Outcome (Result : Type) := Except StoreError Result × Store

def writeDocument (disk : Disk) (document : Document) : Except StoreError Unit × Disk :=
  match disk.write (Utf8.encode document.render) with
  | (.ok (), disk) => (.ok (), disk)
  | (.error refusal, disk) => (.error (.io refusal.describe), disk)

def replace (store : Store) (next : Document) : Outcome Unit :=
  match writeDocument store.disk next with
  | (.ok (), disk) => (.ok (), ⟨next, disk⟩)
  | (.error error, disk) => (.error error, { store with disk })

/-- Applies a mutation to a copy of the document, writes the copy and makes it live. -/
def commit {Result : Type} (store : Store) (change : Change Result) : Outcome Result :=
  match change store.live with
  | .error error => (.error error, store)
  | .ok (result, next) =>
      match store.replace next with
      | (.ok (), store) => (.ok result, store)
      | (.error error, store) => (.error error, store)

def commitTotal (store : Store) (change : Document → Document) : Outcome Unit :=
  store.commit fun document => .ok ((), change document)

/-- The document in the store file, which is written empty when it is absent. -/
def loadDocument (disk : Disk) : Except StoreError Document × Disk :=
  match disk.entry with
  | .file file =>
      let document :=
        if (Utf8.decode? file.content).isNone then
          .error (.io "reading store file: stream did not contain valid UTF-8")
        else
          match Document.read file.content with
          | .ok document => .ok document
          | .error _ => .error (.parse "parsing store file")
      (document, disk)
  | .directory => (.error (.io ("reading store file: " ++ Disk.isADirectory)), disk)
  | .absent =>
      match writeDocument disk .empty with
      | (.ok (), disk) => (.ok .empty, disk)
      | (.error error, disk) => (.error error, disk)

/--
Opens the store.  The tables come in the order of the file, which is one of those in which the
hash maps of the document may be walked.
-/
def load (disk : Disk) : Except StoreError Store × Disk :=
  match loadDocument disk with
  | (.ok document, disk) => (.ok ⟨document, disk⟩, disk)
  | (.error error, disk) => (.error error, disk)

/-- Reads the store file again; a document that cannot be read leaves the live one in place. -/
def reload (store : Store) : Outcome Unit :=
  match loadDocument store.disk with
  | (.ok document, disk) => (.ok (), ⟨document, disk⟩)
  | (.error error, disk) => (.error error, { store with disk })

end Store

end GameCatalog
