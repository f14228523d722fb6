import GameCatalog.Proofs.Records
import GameCatalog.Proofs.Web.Conduct
import GameCatalog.Proofs.Web.Noninterference

/-!
Only the counters are made of records.  Every other endpoint is served alike in worlds that
differ in their records only, and leaves such worlds behind; so in a whole run of requests
nothing that was merely recorded shows.
-/

namespace GameCatalog

open Job

namespace Launcher

theorem respects_ask {Result : Type} (question : Repository → Except StoreError Result) :
    (ask question).Respects World.SameRest :=
  .mapError _ (Job.respects_ask question)

theorem respects_drawKeys (createdAt : Instant) (count : Nat) :
    (drawKeys createdAt count).Respects World.SameRest := by
  induction count with
  | zero => exact .pure _
  | succ count inductionHypothesis =>
      refine .bind (.drawIdentifier World.likeness_sameRest) fun id => ?_
      refine .bind (.drawSymbols World.likeness_sameRest _) fun text => ?_
      exact .bind inductionHypothesis fun _ => .pure _

theorem respects_generateKeys (edition : EditionId) (count : Nat) :
    (generateKeys edition count).Respects World.SameRest := by
  unfold generateKeys
  split
  · exact .throw_bind _ _
  · refine .bind (respects_ask _) fun found => ?_
    split
    · exact .throw_bind _ _
    · have sameClock {first second : World} (same : first.SameRest second) :=
        World.likeness_sameRest.clock same
      refine .get_bind (fun _ _ same => by rw [sameClock same]) fun world => ?_
      refine .bind (respects_drawKeys _ _) fun keys => ?_
      exact .bind (.mapError _ (respects_mutate _ _)) fun _ => .pure _

theorem respects_listKeys (edition : EditionId) (status : Option KeyStatus) :
    (listKeys edition status).Respects World.SameRest := by
  refine .bind (respects_ask _) fun found => ?_
  cases status <;> dsimp only <;> split
  · exact .throw_bind _ _
  · exact respects_ask _
  · exact .throw_bind _ _
  · exact respects_ask _

theorem respects_setStatus (status : KeyStatus) (edition : EditionId) (id : ProductKeyId) :
    (setStatus status edition id).Respects World.SameRest := by
  refine .bind (respects_ask _) fun found => ?_
  split
  · exact .throw _
  · dsimp only
    split
    · exact .throw_bind _ _
    · split
      · exact .pure _
      · exact .bind (.mapError _ (respects_mutate _ _)) fun _ => .pure _

end Launcher

namespace Handler

theorem respects_ask {Result : Type} (question : Repository → Except StoreError Result) :
    (ask question).Respects World.SameRest :=
  .mapError _ (Job.respects_ask question)

theorem respects_serve {Result : Type} {job : Job LauncherError Result}
    (respects : job.Respects World.SameRest) : (serve job).Respects World.SameRest :=
  .mapError _ respects

section Catalogue

theorem respects_loadGame (id : GameId) : (loadGame id).Respects World.SameRest := by
  refine .bind (respects_ask _) fun found => ?_
  cases found with
  | none => exact .throw _
  | some game => exact .pure _

theorem respects_game (visit : Visit) : (game visit).Respects World.SameRest := by
  refine .bind (respects_expect _) fun id => ?_
  exact .bind (respects_loadGame id) fun _ => .pure _

theorem respects_gameFiles (visit : Visit) : (gameFiles visit).Respects World.SameRest := by
  refine .bind (respects_expect _) fun id => ?_
  exact .bind (respects_loadGame id) fun _ => .pure _

theorem respects_gameRoles (visit : Visit) : (gameRoles visit).Respects World.SameRest := by
  refine .bind (respects_expect _) fun id => ?_
  refine .bind (respects_loadGame id) fun _ => ?_
  exact .bind (respects_ask _) fun _ => .pure _

theorem respects_updateVisibility (visit : Visit) :
    (updateVisibility visit).Respects World.SameRest := by
  refine .bind (respects_expect _) fun id => ?_
  refine .bind (respects_expect _) fun visibility => ?_
  exact .bind (.mapError _ (respects_mutate _ _)) fun _ => .pure _

theorem respects_launcherFile (visit : Visit) (edition : Edition) :
    (launcherFile visit edition).Respects World.SameRest := by
  refine .bind (respects_expect _) fun id => ?_
  refine .bind (respects_ask _) fun found => ?_
  cases found with
  | none => exact .throw _
  | some file => exact .pure _

theorem respects_edition (visit : Visit) : (edition visit).Respects World.SameRest := by
  refine .bind (respects_expect _) fun id => ?_
  refine .bind (respects_ask _) fun found => ?_
  cases found with
  | none => exact .throw _
  | some edition => exact .pure _

theorem respects_editionGames (edition : Edition) :
    (editionGames edition).Respects World.SameRest :=
  .bind (respects_ask _) fun _ => .pure _

end Catalogue

section Keys

theorem respects_generateKeys (visit : Visit) : (generateKeys visit).Respects World.SameRest := by
  refine .bind (respects_expect _) fun edition => ?_
  refine .bind (respects_expect _) fun fields => ?_
  split
  · exact .throw _
  · exact .bind (respects_serve (Launcher.respects_generateKeys _ _)) fun _ => .pure _

theorem respects_listKeys (visit : Visit) : (listKeys visit).Respects World.SameRest := by
  refine .bind (respects_expect _) fun edition => ?_
  refine .bind (respects_expect _) fun fields => ?_
  have listed (status : Option KeyStatus) : Job.Respects World.SameRest (do
      let keys ← serve (Launcher.listKeys edition status)
      return Response.json 200 (.array (keys.map ProductKey.view)) : Handler) :=
    .bind (respects_serve (Launcher.respects_listKeys _ _)) fun _ => .pure _
  dsimp only
  split
  · exact listed none
  · exact .bind (respects_expect _) fun status => listed status

theorem respects_switchKey (status : KeyStatus) (visit : Visit) :
    (switchKey (Launcher.setStatus status) visit).Respects World.SameRest := by
  refine .bind (respects_expect _) fun edition => ?_
  refine .bind (respects_expect _) fun id => ?_
  exact .bind (respects_serve (Launcher.respects_setStatus _ _ _)) fun _ => .pure _

end Keys

end Handler

namespace Gateway

open Handler

variable (gateway : Gateway)

theorem respects_guard (scheme : Scheme) (visit : Visit) :
    (gateway.guard scheme visit).Respects World.SameRest := by
  refine .get_bind (fun first second same => ?_) fun world => ?_
  · rw [same.repository, World.likeness_sameRest.clock same]
  · exact .bind (.observe World.likeness_sameRest _) fun _ => respects_expect _

theorem respects_handleGranted (visit : Visit) (endpoint : Endpoint) (grant : Grant) :
    (handleGranted visit endpoint grant).Respects World.SameRest := by
  cases endpoint with
  | me => cases grant <;> first | exact .pure _ | exact .throw _
  | launcherEdition => cases grant <;> first | exact .pure _ | exact .throw _
  | launcherGame => exact respects_game visit
  | launcherFile =>
      cases grant with
      | launcher edition => exact respects_launcherFile visit edition
      | _ => exact .throw _
  | edition => exact respects_edition visit
  | editionGames =>
      cases grant with
      | launcher edition => exact respects_editionGames edition
      | _ => exact .throw _
  | generateKeys => exact respects_generateKeys visit
  | listKeys => exact respects_listKeys visit
  | activateKey => exact respects_switchKey .active visit
  | revokeKey => exact respects_switchKey .inactive visit
  | game => exact respects_game visit
  | gameFiles => exact respects_gameFiles visit
  | gameRoles => exact respects_gameRoles visit
  | updateVisibility => exact respects_updateVisibility visit
  | _ => exact .throw _

theorem respects_serve (visit : Visit) {endpoint : Endpoint} (noMetrics : endpoint ≠ .metrics) :
    (gateway.serve visit endpoint).Respects World.SameRest := by
  unfold serve
  cases endpoint.scheme? with
  | none => exact respects_handleOpen World.likeness_sameRest gateway visit noMetrics
  | some scheme =>
      exact .bind (gateway.respects_guard scheme visit) fun grant =>
        respects_handleGranted visit endpoint grant

section Respond

variable {first second : World} {request : Request}

/-- Whoever does not ask for the counters is answered alike, and leaves alike worlds behind. -/
theorem respond_of_sameRest (same : first.SameRest second)
    (noMetrics : ¬request.Reaches .metrics) :
    (gateway.respond request first).1 = (gateway.respond request second).1 ∧
      (gateway.respond request first).2.SameRest (gateway.respond request second).2 := by
  apply respond_of_served World.likeness_sameRest gateway same
  intro endpoint encoded reached
  have notMetrics : endpoint ≠ .metrics := by
    rintro rfl
    exact noMetrics ⟨encoded, reached⟩
  exact gateway.respects_serve (visitOf request encoded) notMetrics first second same

/-- What was merely recorded before a run of requests does not show in the responses. -/
theorem respondAll_of_sameRest (same : first.SameRest second)
    (requests : List (Circumstances × Request))
    (noMetrics : ∀ visited ∈ requests, ¬visited.2.Reaches .metrics) :
    gateway.respondAll first requests = gateway.respondAll second requests := by
  induction requests generalizing first second with
  | nil => rfl
  | cons visited rest inductionHypothesis =>
      obtain ⟨circumstances, request⟩ := visited
      obtain ⟨notNow, notLater⟩ := List.forall_mem_cons.mp noMetrics
      obtain ⟨sameResponse, sameAfter⟩ :=
        gateway.respond_of_sameRest (same.under circumstances) notNow
      have sameRest := inductionHypothesis sameAfter notLater
      simp only [respondAll]
      rw [sameResponse, sameRest]

end Respond

end Gateway

end GameCatalog
