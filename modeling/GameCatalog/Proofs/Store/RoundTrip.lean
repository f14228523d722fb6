import GameCatalog.Proofs.Store.Durability

/-!
What a store file holds, apart from the order in which it is written.  The content of a document
is the record under each key; documents with the same content may list their tables in different
orders.  Whatever order a document is written in, reading it gives the content back, and so a
store that was opened can be written and opened again without losing anything.
-/

namespace GameCatalog

/-- What a document holds, whatever the order of its tables is. -/
structure Content where
  admins : List UserId
  editions : EditionId → Option Edition
  games : GameId → Option Game
  gameRoles : GameId → Option (UserId → Option GameRole)
  productKeys : ProductKeyId → Option StoredKey
  launcherSessions : LauncherSessionId → Option StoredSession

namespace Document

def content (document : Document) : Content where
  admins := document.admins
  editions := document.editions.get?
  games := document.games.get?
  gameRoles game := (document.gameRoles.get? game).map Table.get?
  productKeys := document.productKeys.get?
  launcherSessions := document.launcherSessions.get?

theorem content_read_render {document arranged : Document}
    (same : arranged.content = document.content) :
    (read (Utf8.encode arranged.render)).map content = .ok document.content := by
  rw [read_render, ← same]
  rfl

end Document

namespace Store

theorem writeDocument_of_accepts {disk : Disk} (accepts : disk.refusal? = none)
    (document : Document) :
    writeDocument disk document = (.ok (), (Store.written ⟨document, disk⟩ document).disk) := by
  simp only [writeDocument, Disk.write, accepts]
  rfl

theorem load_of_written {disk : Disk} (accepts : disk.refusal? = none) (document : Document) :
    ∃ saved, writeDocument disk document = (.ok (), saved) ∧
      load saved = (.ok ⟨document, saved⟩, saved) := by
  have synced : (Store.written ⟨document, disk⟩ document).Synced :=
    synced_written ⟨document, disk⟩ document
  exact ⟨_, writeDocument_of_accepts accepts document, load_of_synced synced⟩

theorem load_of_decoded {value : Json} {document : Document} {disk : Disk} {mode : Nat}
    (there : disk.entry = .file ⟨Utf8.encode value.compact, mode⟩)
    (decoded : Document.decoder value.toReading = .ok document) :
    load disk = (.ok ⟨document, disk⟩, disk) := by
  have text : (Utf8.decode? (Utf8.encode value.compact)).isSome = true := by
    rw [Utf8.decode?_encode]
    rfl
  have synced : Synced ⟨document, disk⟩ := ⟨_, there, text, Json.run_compact decoded⟩
  exact load_of_synced synced

/--
Nothing is lost in a store file.  A document is read back from its text, and its content from the
text of its tables in any order.  What was opened from a file, with whatever sections missing,
members unknown, identifiers spelled otherwise or keys repeated, can be written in any order and
opened again, and is the same.
-/
theorem load_of_rewritten :
    (∀ document : Document, Document.read (Utf8.encode document.render) = .ok document) ∧
    (∀ document arranged : Document, arranged.content = document.content →
      (Document.read (Utf8.encode arranged.render)).map Document.content =
        .ok document.content) ∧
    ∀ disk after loaded, load disk = (.ok loaded, after) →
      ∀ (later : Disk) (arranged : Document), later.refusal? = none →
        arranged.content = loaded.live.content →
        ∃ saved reopened, writeDocument later arranged = (.ok (), saved) ∧
          load saved = (.ok reopened, saved) ∧ reopened.live = arranged ∧
          reopened.live.content = loaded.live.content := by
  refine ⟨Document.read_render, fun document arranged => Document.content_read_render, ?_⟩
  intro disk after loaded opened later arranged accepts same
  obtain ⟨saved, written, reopened⟩ := load_of_written accepts arranged
  exact ⟨saved, _, written, reopened, rfl, same⟩

section Respelled

def outdated : Game := ⟨⟨7⟩, "Draft", "", .private, [], 1⟩

def current : Game :=
  ⟨⟨7⟩, "Orbit", "A game", .public, [⟨⟨9⟩, "zip", "run"⟩], UInt64.ofNat Instant.last⟩

def other : Game := ⟨⟨8⟩, "Ferry", "", .limited, [], 3⟩

/-- A file in which sections are missing, a member is unknown, and a key is repeated. -/
def respelled : Json :=
  .object
    [("note", .array [.null]),
      ("games", .object
        [("00000000000000000000000000000007", outdated.toJson),
          ("00000000-0000-0000-0000-000000000008", other.toJson),
          ("urn:uuid:00000000-0000-0000-0000-000000000007", current.toJson)])]

def listed : Document := { games := ⟨[(⟨7⟩, current), (⟨8⟩, other)], by decide⟩ }

def relisted : Document := { games := ⟨[(⟨8⟩, other), (⟨7⟩, current)], by decide⟩ }

theorem content_relisted : relisted.content = listed.content := by
  have games : relisted.games.get? = listed.games.get? := Table.get?_of_perm (.swap _ _ _)
  unfold Document.content
  rw [games]
  rfl

def respelledDisk : Disk := { entry := .file ⟨Utf8.encode respelled.compact, 0o644⟩ }

theorem load_of_rewritten_respelled :
    load respelledDisk = (.ok ⟨listed, respelledDisk⟩, respelledDisk) ∧
      ∃ saved reopened, writeDocument respelledDisk relisted = (.ok (), saved) ∧
        load saved = (.ok reopened, saved) ∧ reopened.live = relisted ∧
        reopened.live.content = listed.content := by
  have decoded : Document.decoder respelled.toReading = .ok listed := rfl
  have opened : load respelledDisk = (.ok ⟨listed, respelledDisk⟩, respelledDisk) :=
    load_of_decoded rfl decoded
  exact ⟨opened, load_of_rewritten.2.2 respelledDisk respelledDisk _ opened respelledDisk
    relisted rfl content_relisted⟩

end Respelled

end Store

end GameCatalog
