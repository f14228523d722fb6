import GameCatalog.Proofs.Json.Record
import GameCatalog.Proofs.Store.Table
import GameCatalog.Store.Document

/-!
The store document is read back from its own text, record by record and table by table.
-/

namespace GameCatalog

open Json Json.Record

theorem Visibility.recovers : Recovers Visibility.decoder Visibility.toJson := by
  intro visibility
  cases visibility <;> rfl

theorem GameRole.recovers : Recovers GameRole.decoder GameRole.toJson := by
  intro role
  cases role <;> rfl

theorem KeyStatus.recovers_shared : Recovers KeyStatus.sharedDecoder KeyStatus.toJson := by
  intro status
  cases status <;> rfl

theorem GameFile.recovers : Recovers GameFile.decoder GameFile.toJson := by
  intro file
  apply Reads.decoder_eq_ok
  exact (((reads_required "id" (recovers_identifier file.id)).map GameFile.mk).seq
    (reads_required "file_type" (recovers_text file.fileType)) (by decide)).seq
    (reads_required "entry_point" (recovers_text file.entryPoint)) (by decide)

theorem Game.recovers : Recovers Game.decoder Game.toJson := by
  intro game
  apply Reads.decoder_eq_ok
  exact ((((((reads_required "id" (recovers_identifier game.id)).map Game.mk).seq
    (reads_required "name" (recovers_text game.name)) (by decide)).seq
    (reads_withDefault "description" "" (recovers_text game.description)) (by decide)).seq
    (reads_required "visibility" (Visibility.recovers game.visibility)) (by decide)).seq
    (reads_withDefault "files" [] (recovers_list GameFile.recovers game.files)) (by decide)).seq
    (reads_required "created_at" (recovers_natural game.createdAt)) (by decide)

theorem Edition.recovers : Recovers Edition.decoder Edition.toJson := by
  intro edition
  have reads := ((((((reads_required "id" (recovers_identifier edition.id)).map Edition.mk).seq
    (reads_required "name" (recovers_text edition.name)) (by decide)).seq
    (reads_optional "questionnaire_url" recovers_text (fun _ => by simp [toReading])
      edition.questionnaireUrl) (by decide)).seq
    (reads_withDefault "game_ids" [] (recovers_list recovers_identifier edition.gameIds))
      (by decide)).seq
    (reads_withDefault "managers" [] (recovers_list recovers_identifier edition.managers))
      (by decide)).seq
    (reads_required "created_at" (recovers_natural edition.createdAt)) (by decide)
  apply Reads.decoder_eq_ok
  simp only [List.append_assoc, List.cons_append, List.nil_append] at reads ⊢
  exact reads

theorem KeyStatus.recovers : Recovers KeyStatus.decoder KeyStatus.toJson := by
  intro status
  cases status <;> rfl

/-- A key is read with any reader of its status. -/
theorem ProductKey.reads_formWith {status : Decoder KeyStatus}
    (recovers : Recovers status KeyStatus.toJson) (productKey : ProductKey) :
    (formWith status).Reads productKey.toMembers productKey := by
  have unlocked := ((reads_required "id" (recovers_identifier productKey.id)).map
    ProductKey.mk).seq (reads_required "key" (recovers_secret productKey.key)) (by decide)
  have switched := unlocked.seq (reads_required "status" (recovers productKey.status)) (by
    change ∀ name ∈ ["id", "key"], name ∉ ["status"]
    decide)
  exact switched.seq (reads_required "created_at" (recovers_natural productKey.createdAt)) (by
    change ∀ name ∈ ["id", "key", "status"], name ∉ ["created_at"]
    decide)

theorem ProductKey.recovers : Recovers ProductKey.decoder ProductKey.toJson :=
  fun productKey => (reads_formWith KeyStatus.recovers productKey).decoder_eq_ok

theorem LauncherSession.reads_form (session : LauncherSession) :
    form.Reads session.toMembers session :=
  (((reads_required "id" (recovers_identifier session.id)).map LauncherSession.mk).seq
    (reads_required "access_token" (recovers_secret session.accessToken)) (by decide)).seq
    (reads_required "expires_at" (recovers_natural session.expiresAt)) (by decide)

theorem LauncherSession.recovers : Recovers LauncherSession.decoder LauncherSession.toJson :=
  fun session => (reads_form session).decoder_eq_ok

theorem StoredKey.recovers (depth : Nat) :
    Recovers (StoredKey.form.sharedDecoder depth) StoredKey.toJson := by
  intro stored
  apply Reads.sharedDecoder_eq_ok
  exact ((reads_required "edition_id" (recovers_identifier stored.edition)).map StoredKey.mk).seq
    (stored.productKey.reads_formWith KeyStatus.recovers_shared) (by decide)

theorem StoredSession.recovers (depth : Nat) :
    Recovers (StoredSession.form.sharedDecoder depth) StoredSession.toJson := by
  intro stored
  apply Reads.sharedDecoder_eq_ok
  exact ((reads_required "product_key_id" (recovers_identifier stored.productKey)).map
    StoredSession.mk).seq stored.session.reads_form (by decide)

namespace Document

theorem recovers_table {entity : Entity} {Value : Type} {decoder : Decoder Value}
    {write : Value → Json} (recovers : Recovers decoder write) :
    Recovers (@tableDecoder entity Value decoder) (tableToJson write) := by
  intro table
  unfold tableDecoder tableToJson
  rw [pairs_toReading Id.ofText?_toText recovers table.entries]
  exact congrArg Except.ok (Table.ofList_entries table)

theorem recovers : Recovers decoder toJson := by
  intro document
  have admins := (reads_withDefault "admins" []
    (recovers_list recovers_identifier document.admins)).map Document.mk
  have editions := admins.seq (reads_withDefault "editions" .empty
    (recovers_table Edition.recovers document.editions)) (by decide)
  have games := editions.seq (reads_withDefault "games" .empty
    (recovers_table Game.recovers document.games)) (by decide)
  have gameRoles := games.seq (reads_withDefault "game_roles" .empty
    (recovers_table (recovers_table GameRole.recovers) document.gameRoles)) (by decide)
  have productKeys := gameRoles.seq (reads_withDefault "product_keys" .empty
    (recovers_table (StoredKey.recovers sharedDepth) document.productKeys)) (by decide)
  have reads : form.Reads _ document := productKeys.seq (reads_withDefault "launcher_sessions"
    .empty (recovers_table (StoredSession.recovers sharedDepth) document.launcherSessions))
    (by decide)
  exact reads.decoder_eq_ok

/-- A document is read back from its own text. -/
theorem read_render (document : Document) : read (Utf8.encode document.render) = .ok document :=
  run_pretty (recovers document)

end Document

end GameCatalog
