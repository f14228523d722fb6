import GameCatalog.Proofs.Discretion
import GameCatalog.Proofs.Launcher.Outcome
import GameCatalog.Proofs.Web.Conduct
import GameCatalog.Proofs.Web.Exchange
import GameCatalog.Proofs.Web.Noninterference

/-!
What went wrong inside is not told.  An internal failure of the store or of the identity provider
is answered by one and the same response whatever its text is, and it leaves nothing behind that a
later response could show; so two runs of requests that differ in the texts of such failures only
are answered alike, and leave the same document behind.
-/

namespace GameCatalog

open Job

theorem Failure.Internal.ofStore {error : StoreError} (isInternal : error.Internal) :
    (Failure.ofStore error).Internal := by
  cases error with
  | notFound what => exact absurd rfl (isInternal what)
  | io reason => exact ⟨_, rfl⟩
  | parse reason => exact ⟨_, rfl⟩

theorem LauncherError.Internal.ofStore {error : StoreError} (isInternal : error.Internal) :
    (LauncherError.ofStore error).Internal := by
  cases error with
  | notFound what => exact absurd rfl (isInternal what)
  | io reason => exact ⟨_, rfl⟩
  | parse reason => exact ⟨_, rfl⟩

theorem Failure.Internal.ofLauncher {error : LauncherError} (isInternal : error.Internal) :
    (Failure.ofLauncher error).Internal := by
  obtain ⟨reason, rfl⟩ := isInternal
  exact ⟨_, rfl⟩

theorem Failure.Internal.ofLogin {error : LoginError} (isInternal : error.Internal) :
    (Failure.ofLogin error).Internal := by
  refine ⟨error.message, ?_⟩
  unfold Failure.ofLogin ApiError.ofLogin
  rw [isInternal]
  rfl

def Response.internalError : Response :=
  .json 500 (.object [("error", .text "internal server error")])

example : Response.internalError.bodyText = "\x7b\"error\":\"internal server error\"\x7d" := by
  decide +kernel

theorem Failure.Internal.toResponse {failure : Failure} (isInternal : failure.Internal) :
    failure.toResponse = .internalError := by
  obtain ⟨detail, rfl⟩ := isInternal
  rfl

namespace Launcher

theorem discreet_ask {Result : Type} {question : Repository → Except StoreError Result}
    (answered : ∀ first second : Repository, first.Impairs second →
      Impairs StoreError.Internal (question first) (question second)) :
    (ask question).Discreet LauncherError.Internal :=
  .mapError (fun _ => .ofStore) (.ask answered)

theorem discreet_commit {Result : Type} (operation : Operation)
    {mutation : Store → Store.Outcome Result} {change : Store.Change Result}
    (commits : ∀ store, mutation store = store.commit change) :
    ((Job.mutate operation mutation).mapError LauncherError.ofStore).Discreet
      LauncherError.Internal :=
  .mapError (fun _ => .ofStore) (.mutate operation commits)

theorem discreet_redeem (seconds : Nat) (text : String) :
    (redeem seconds text).Discreet LauncherError.Internal := by
  unfold redeem
  split
  · exact .throw_bind _ _
  · refine .bind (discreet_ask fun _ _ impairs => impairs.answer _ _) fun found => ?_
    split
    · exact .throw _
    · split
      · exact .throw_bind _ _
      · refine .bind .drawIdentifier fun id => ?_
        refine .bind (.drawSymbols _) fun token => ?_
        apply Discreet.get_bind
        · intro first second impairs
          rw [impairs.clock]
        · intro world
          exact .bind (discreet_commit _ (saveLauncherSession_commits _ _)) fun _ => .pure _

theorem discreet_drawKeys (createdAt : Instant) (count : Nat) :
    (drawKeys createdAt count).Discreet LauncherError.Internal := by
  induction count with
  | zero => exact .pure _
  | succ count inductionHypothesis =>
      refine .bind .drawIdentifier fun id => ?_
      refine .bind (.drawSymbols _) fun text => ?_
      exact .bind inductionHypothesis fun _ => .pure _

theorem discreet_generateKeys (edition : EditionId) (count : Nat) :
    (generateKeys edition count).Discreet LauncherError.Internal := by
  unfold generateKeys
  split
  · exact .throw_bind _ _
  · refine .bind (discreet_ask fun _ _ impairs => impairs.answer _ _) fun found => ?_
    split
    · exact .throw_bind _ _
    · apply Discreet.get_bind
      · intro first second impairs
        rw [impairs.clock]
      · intro world
        refine .bind (discreet_drawKeys _ _) fun keys => ?_
        exact .bind (discreet_commit _ (saveProductKeys_commits _ _)) fun _ => .pure _

theorem discreet_listKeys (edition : EditionId) (status : Option KeyStatus) :
    (listKeys edition status).Discreet LauncherError.Internal := by
  refine .bind (discreet_ask fun _ _ impairs => impairs.answer _ _) fun found => ?_
  have listed (statuses : List KeyStatus) :
      (ask (·.listProductKeys edition statuses)).Discreet LauncherError.Internal :=
    discreet_ask fun _ _ impairs => impairs.answer _ _
  cases status <;> dsimp only <;> split
  · exact .throw_bind _ _
  · exact listed _
  · exact .throw_bind _ _
  · exact listed _

theorem discreet_setStatus (status : KeyStatus) (edition : EditionId) (id : ProductKeyId) :
    (setStatus status edition id).Discreet LauncherError.Internal := by
  refine .bind (discreet_ask fun _ _ impairs => impairs.answer _ _) fun found => ?_
  split
  · exact .throw _
  · dsimp only
    split
    · exact .throw_bind _ _
    · split
      · exact .pure _
      · exact .bind (discreet_commit _ (updateProductKeyStatus_commits _ _)) fun _ => .pure _

end Launcher

namespace Login

theorem discreet_start (settings : Settings) : (start settings).Discreet LoginError.Internal := by
  refine .bind (.drawSymbols _) fun verifier => ?_
  refine .bind (.drawSymbols _) fun state => ?_
  dsimp only
  split
  · exact .pure _
  · exact .throw _

theorem discreet_finish (attempt : Option LoginAttempt) (code : String) (state : Option String)
    (now : Instant) : (finish attempt code state now).Discreet LoginError.Internal := by
  unfold finish
  cases attempt with
  | none => exact .throw _
  | some attempt =>
      dsimp only
      split
      · exact .throw_bind _ _
      · refine .bind (.call _ fun _ _ impairs => impairs.exchangeCode _ _) fun grant => ?_
        exact .bind (.call _ fun _ _ impairs => impairs.fetchUser _) fun _ => .pure _

theorem discreet_logout (session : Option IdentitySession) :
    (logout session).Discreet LoginError.Internal := by
  unfold logout
  cases session with
  | none => exact .throw _
  | some session => exact .call _ fun _ _ impairs => impairs.revoke _

end Login

namespace Handler

theorem discreet_expect {Value : Type} (read : Except Failure Value) :
    (expect read).Discreet Failure.Internal := by
  cases read with
  | ok value => exact .pure value
  | error failure => exact .throw failure

theorem discreet_ask {Result : Type} {question : Repository → Except StoreError Result}
    (answered : ∀ first second : Repository, first.Impairs second →
      Impairs StoreError.Internal (question first) (question second)) :
    (ask question).Discreet Failure.Internal :=
  .mapError (fun _ => .ofStore) (.ask answered)

theorem discreet_serve {Result : Type} {job : Job LauncherError Result}
    (discreet : job.Discreet LauncherError.Internal) : (serve job).Discreet Failure.Internal :=
  .mapError (fun _ => .ofLauncher) discreet

section Login

variable {Value Result : Type}

theorem discreet_takeLogin (step : LoginStep) (result : Except LoginError Value) :
    (takeLogin step result).Discreet Failure.Internal := by
  cases result with
  | ok value => exact .pure _
  | error error => exact .bind (.observe _) fun _ => .throw _

/-- Internal failures of a login step are counted alike. -/
theorem exec_takeLogin_of_internal (step : LoginStep) {error : LoginError}
    (isInternal : error.Internal) (next : Value → Job Failure Result) (world : World) :
    exec (takeLogin step (.error error) >>= next) world =
      (.error (.ofLogin error), {
        world with observations := world.observations ++ [.login step .providerError] }) := by
  have counted : failureResult error = .providerError := by
    unfold failureResult
    rw [isInternal]
    rfl
  apply exec_bind_of_error
  simp only [takeLogin, counted]
  rfl

theorem discreet_login_bind (step : LoginStep) {job : Job LoginError Value}
    (discreet : job.Discreet LoginError.Internal) {next : Value → Job Failure Result}
    (rest : ∀ value, (next value).Discreet Failure.Internal) :
    (job.attempt >>= fun result => takeLogin step result >>= next).Discreet
      Failure.Internal := by
  refine .attempt_bind discreet ?_ (.login step .providerError) ?_
  · intro result
    exact .bind (discreet_takeLogin step result) rest
  · intro error isInternal
    refine ⟨.ofLogin error, .ofLogin isInternal, ?_⟩
    exact exec_takeLogin_of_internal step isInternal next

theorem discreet_startLogin (gateway : Gateway) (request : Request) :
    (startLogin gateway request).Discreet Failure.Internal := by
  refine discreet_login_bind _ (Login.discreet_start _) fun outcome => ?_
  exact .bind (.observe _) fun _ => .pure _

theorem discreet_finishLogin (gateway : Gateway) (request : Request) :
    (finishLogin gateway request).Discreet Failure.Internal := by
  refine .bind (discreet_expect _) fun fields => ?_
  dsimp only
  split
  · exact .bind (.observe _) fun _ => .throw _
  · apply Discreet.get_bind
    · intro first second impairs
      rw [impairs.clock]
    · intro world
      refine discreet_login_bind _ (Login.discreet_finish _ _ _ _) fun outcome => ?_
      exact .bind (.observe _) fun _ => .pure _

theorem discreet_logout (gateway : Gateway) (request : Request) :
    (logout gateway request).Discreet Failure.Internal := by
  refine discreet_login_bind _ (Login.discreet_logout _) fun _ => ?_
  refine .bind (.observe _) fun _ => ?_
  apply Discreet.get_bind
  · intro first second impairs
    rw [impairs.clock]
  · intro world
    exact .pure _

end Login

section Catalogue

theorem discreet_loadGame (id : GameId) : (loadGame id).Discreet Failure.Internal := by
  refine .bind (discreet_ask fun _ _ impairs => impairs.answer _ _) fun found => ?_
  cases found with
  | none => exact .throw _
  | some game => exact .pure _

theorem discreet_game (visit : Visit) : (game visit).Discreet Failure.Internal := by
  refine .bind (discreet_expect _) fun id => ?_
  exact .bind (discreet_loadGame id) fun _ => .pure _

theorem discreet_gameFiles (visit : Visit) : (gameFiles visit).Discreet Failure.Internal := by
  refine .bind (discreet_expect _) fun id => ?_
  exact .bind (discreet_loadGame id) fun _ => .pure _

theorem discreet_gameRoles (visit : Visit) : (gameRoles visit).Discreet Failure.Internal := by
  refine .bind (discreet_expect _) fun id => ?_
  refine .bind (discreet_loadGame id) fun _ => ?_
  exact .bind (discreet_ask fun _ _ impairs => impairs.answer _ _) fun _ => .pure _

theorem discreet_updateVisibility (visit : Visit) :
    (updateVisibility visit).Discreet Failure.Internal := by
  refine .bind (discreet_expect _) fun id => ?_
  refine .bind (discreet_expect _) fun visibility => ?_
  exact .bind (.mapError (fun _ => .ofStore) (.mutate _ fun _ => rfl)) fun _ => .pure _

/-- A search through the games stops at the first internal failure. -/
theorem findFile_impairs {first second : Repository} (impairs : first.Impairs second)
    (file : GameFileId) (games : List GameId) :
    Impairs StoreError.Internal (findFile first file games) (findFile second file games) := by
  induction games with
  | nil => exact .refl _
  | cons id rest inductionHypothesis =>
      apply Impairs.bind (impairs.answer _ _)
      intro found
      cases found with
      | none => exact inductionHypothesis
      | some game =>
          dsimp only
          split
          · exact .refl _
          · exact inductionHypothesis

theorem existingGames_impairs {first second : Repository} (impairs : first.Impairs second)
    (games : List GameId) :
    Impairs StoreError.Internal (existingGames first games) (existingGames second games) := by
  induction games with
  | nil => exact .refl _
  | cons id rest inductionHypothesis =>
      apply Impairs.bind (impairs.answer _ _)
      intro found
      cases found with
      | none => exact inductionHypothesis
      | some game => exact inductionHypothesis.bind fun _ => .refl _

theorem discreet_launcherFile (visit : Visit) (edition : Edition) :
    (launcherFile visit edition).Discreet Failure.Internal := by
  refine .bind (discreet_expect _) fun id => ?_
  refine .bind (discreet_ask fun _ _ impairs => findFile_impairs impairs _ _) fun found => ?_
  cases found with
  | none => exact .throw _
  | some file => exact .pure _

theorem discreet_edition (visit : Visit) : (edition visit).Discreet Failure.Internal := by
  refine .bind (discreet_expect _) fun id => ?_
  refine .bind (discreet_ask fun _ _ impairs => impairs.answer _ _) fun found => ?_
  cases found with
  | none => exact .throw _
  | some edition => exact .pure _

theorem discreet_editionGames (edition : Edition) :
    (editionGames edition).Discreet Failure.Internal :=
  .bind (discreet_ask fun _ _ impairs => existingGames_impairs impairs _) fun _ => .pure _

end Catalogue

section Keys

theorem discreet_redeem (gateway : Gateway) (request : Request) :
    (redeem gateway request).Discreet Failure.Internal := by
  refine .bind (discreet_expect _) fun key => ?_
  refine .attempt_bind (Launcher.discreet_redeem _ _) ?_ (.redemption .error) ?_
  · intro outcome
    cases outcome with
    | ok session => exact .bind (.observe _) fun _ => .pure _
    | error error => exact .bind (.observe _) fun _ => .throw _
  · intro error isInternal
    refine ⟨.ofLauncher error, .ofLauncher isInternal, fun world => ?_⟩
    obtain ⟨reason, rfl⟩ := isInternal
    rfl

theorem discreet_generateKeys (visit : Visit) :
    (generateKeys visit).Discreet Failure.Internal := by
  refine .bind (discreet_expect _) fun edition => ?_
  refine .bind (discreet_expect _) fun fields => ?_
  split
  · exact .throw _
  · exact .bind (discreet_serve (Launcher.discreet_generateKeys _ _)) fun _ => .pure _

theorem discreet_listKeys (visit : Visit) : (listKeys visit).Discreet Failure.Internal := by
  refine .bind (discreet_expect _) fun edition => ?_
  refine .bind (discreet_expect _) fun fields => ?_
  have listed (status : Option KeyStatus) : (do
      let keys ← serve (Launcher.listKeys edition status)
      return Response.json 200 (.array (keys.map ProductKey.view)) : Handler).Discreet
        Failure.Internal :=
    .bind (discreet_serve (Launcher.discreet_listKeys _ _)) fun _ => .pure _
  dsimp only
  split
  · exact listed none
  · exact .bind (discreet_expect _) fun status => listed status

theorem discreet_switchKey (status : KeyStatus) (visit : Visit) :
    (switchKey (Launcher.setStatus status) visit).Discreet Failure.Internal := by
  refine .bind (discreet_expect _) fun edition => ?_
  refine .bind (discreet_expect _) fun id => ?_
  exact .bind (discreet_serve (Launcher.discreet_setStatus _ _ _)) fun _ => .pure _

end Keys

end Handler

namespace Gateway

open Handler

variable (gateway : Gateway)

theorem discreet_handleOpen (visit : Visit) (endpoint : Endpoint) :
    (gateway.handleOpen visit endpoint).Discreet Failure.Internal := by
  cases endpoint with
  | health =>
      apply Discreet.get_bind
      · intro first second impairs
        rw [impairs.uptime]
      · intro world
        exact .pure _
  | metrics =>
      apply Discreet.get_bind
      · intro first second impairs
        rw [impairs.observations]
      · intro world
        exact .pure _
  | startLogin => exact discreet_startLogin gateway visit.request
  | finishLogin => exact discreet_finishLogin gateway visit.request
  | logout => exact discreet_logout gateway visit.request
  | redeem => exact discreet_redeem gateway visit.request
  | _ => exact .throw _

theorem checked_impairs {first second : World} (impairs : first.Impairs second)
    (scheme : Scheme) (visit : Visit) :
    Impairs (fun error => ∃ reason, error = .lookup reason) (gateway.checked visit first scheme)
      (gateway.checked visit second scheme) := by
  unfold checked
  rw [impairs.clock]
  exact Access.check_impairs impairs.repository _ _ _

/-- The guard tells and counts the failures of its lookups alike, whatever they are. -/
theorem discreet_guard (scheme : Scheme) (visit : Visit) :
    (gateway.guard scheme visit).Discreet Failure.Internal := by
  intro first second impairs
  rw [exec_guard, exec_guard]
  rcases gateway.checked_impairs impairs scheme visit with same | ⟨error, failed, reason, rfl⟩
  · rw [same]
    exact .inl ⟨rfl, impairs.observing _⟩
  · rw [failed]
    refine .inr ⟨⟨_, rfl, _, rfl⟩, fun back => ?_⟩
    obtain ⟨error, failedToo, reasonToo, rfl⟩ :=
      (gateway.checked_impairs back scheme visit).failsBy ⟨_, failed, reason, rfl⟩
    rw [failedToo]
    exact ⟨⟨_, rfl, _, rfl⟩, impairs.observing _⟩

theorem discreet_handleGranted (visit : Visit) (endpoint : Endpoint) (grant : Grant) :
    (handleGranted visit endpoint grant).Discreet Failure.Internal := by
  cases endpoint with
  | me => cases grant <;> first | exact .pure _ | exact .throw _
  | launcherEdition => cases grant <;> first | exact .pure _ | exact .throw _
  | launcherGame => exact discreet_game visit
  | launcherFile =>
      cases grant with
      | launcher edition => exact discreet_launcherFile visit edition
      | _ => exact .throw _
  | edition => exact discreet_edition visit
  | editionGames =>
      cases grant with
      | launcher edition => exact discreet_editionGames edition
      | _ => exact .throw _
  | generateKeys => exact discreet_generateKeys visit
  | listKeys => exact discreet_listKeys visit
  | activateKey => exact discreet_switchKey .active visit
  | revokeKey => exact discreet_switchKey .inactive visit
  | game => exact discreet_game visit
  | gameFiles => exact discreet_gameFiles visit
  | gameRoles => exact discreet_gameRoles visit
  | updateVisibility => exact discreet_updateVisibility visit
  | _ => exact .throw _

theorem discreet_serve (visit : Visit) (endpoint : Endpoint) :
    (gateway.serve visit endpoint).Discreet Failure.Internal := by
  unfold serve
  cases endpoint.scheme? with
  | none => exact gateway.discreet_handleOpen visit endpoint
  | some scheme =>
      refine .bind (gateway.discreet_guard scheme visit) fun grant => ?_
      exact discreet_handleGranted visit endpoint grant

section Respond

variable {first second : World} (request : Request)

/-- Whoever meets an internal failure is answered as if nothing had failed, or by the one text. -/
theorem respond_discreet (impairs : first.Impairs second) :
    ((gateway.respond request first).1 = (gateway.respond request second).1 ∧
      (gateway.respond request first).2.Impairs (gateway.respond request second).2) ∨
    ((gateway.respond request first).1 = finalize request .internalError ∧
      (second.Impairs first →
        (gateway.respond request second).1 = finalize request .internalError ∧
          (gateway.respond request first).2.Impairs (gateway.respond request second).2)) := by
  cases reached : Route.reached? request.path request.method with
  | none =>
      rw [respond_of_answer gateway request first
          (run_answer_of_unreached gateway request first reached),
        respond_of_answer gateway request second
          (run_answer_of_unreached gateway request second reached)]
      exact .inl ⟨rfl, impairs.observing _⟩
  | some place =>
      obtain ⟨endpoint, encoded⟩ := place
      rw [respond_of_answer gateway request first
          ((run_answer_of_reached gateway request first reached).trans (run_conclude first _)),
        respond_of_answer gateway request second
          ((run_answer_of_reached gateway request second reached).trans (run_conclude second _))]
      rcases gateway.discreet_serve (visitOf request encoded) endpoint first second impairs with
        ⟨same, after⟩ | ⟨⟨failure, failed, isInternal⟩, matched⟩
      · rw [same]
        exact .inl ⟨rfl, after.observing _⟩
      · have concludes : concluded (.error failure) = .internalError := isInternal.toResponse
        rw [failed, concludes]
        refine .inr ⟨rfl, fun back => ?_⟩
        obtain ⟨⟨other, failedToo, otherInternal⟩, after⟩ := matched back
        have concludesToo : concluded (.error other) = .internalError := otherInternal.toResponse
        rw [failedToo, concludesToo]
        exact ⟨rfl, after.observing _⟩

/-- Worlds that impair each other answer alike, and are left behind so. -/
theorem respond_of_matched (impairs : first.Impairs second) (back : second.Impairs first) :
    (gateway.respond request first).1 = (gateway.respond request second).1 ∧
      (gateway.respond request first).2.Impairs (gateway.respond request second).2 := by
  rcases gateway.respond_discreet request impairs with ended | ⟨failed, matched⟩
  · exact ended
  · obtain ⟨failedToo, after⟩ := matched back
    exact ⟨failed.trans failedToo.symm, after⟩

end Respond

end Gateway

def Circumstances.Match (first second : Circumstances) : Prop :=
  first.Impairs second ∧ second.Impairs first

/-- The same request, met under circumstances that match. -/
def MetAlike (here there : Circumstances × Request) : Prop :=
  here.1.Match there.1 ∧ here.2 = there.2

/-- One response is sent, and one document is left in memory and on the disk. -/
structure Exchange.Same (here there : Exchange) : Prop where
  response : here.response = there.response
  live : here.after.store.live = there.after.store.live
  entry : here.after.store.disk.entry = there.after.store.disk.entry

namespace Gateway

variable (gateway : Gateway)

theorem same_exchanges {first second : World} (impairs : first.Impairs second)
    (back : second.Impairs first) {here there : List (Circumstances × Request)}
    (met : List.Forall₂ MetAlike here there) :
    List.Forall₂ Exchange.Same (gateway.exchanges first here) (gateway.exchanges second there) := by
  induction met generalizing first second with
  | nil => exact .nil
  | @cons visited other _ _ alike _ inductionHypothesis =>
      obtain ⟨circumstances, request⟩ := visited
      obtain ⟨otherCircumstances, _⟩ := other
      obtain ⟨⟨matching, matchingBack⟩, rfl⟩ := alike
      have impairsHere := impairs.under matching
      have backHere := back.under matchingBack
      obtain ⟨sameResponse, after⟩ := gateway.respond_of_matched request impairsHere backHere
      obtain ⟨-, afterBack⟩ := gateway.respond_of_matched request backHere impairsHere
      apply List.Forall₂.cons
      · exact ⟨sameResponse, after.live, after.disk.entry⟩
      · exact inductionHypothesis after afterBack

/--
Discretion: which internal failures a run meets does not show in its responses or in the document,
and a request that such a failure keeps from being answered gets the one text for all of them.
-/
theorem exchanges_discreet :
    (∀ (world : World) (here there : List (Circumstances × Request)),
      List.Forall₂ MetAlike here there →
        List.Forall₂ Exchange.Same (gateway.exchanges world here) (gateway.exchanges world there)) ∧
    ∀ impaired intact : World, impaired.Impairs intact → ∀ request,
      (gateway.respond request impaired).1 = (gateway.respond request intact).1 ∨
        (gateway.respond request impaired).1 = finalize request .internalError := by
  constructor
  · intro world here there met
    exact gateway.same_exchanges (.refl world) (.refl world) met
  · intro impaired intact impairs request
    rcases gateway.respond_discreet request impairs with ⟨same, -⟩ | ⟨failed, -⟩
    · exact .inl same
    · exact .inr failed

def gamesFailing (error : StoreError) : Faults := fun operation =>
  if operation = .getGame then some error else none

theorem gamesFailing_impairs {error : StoreError} (isInternal : error.Internal) {faults : Faults}
    (rest : ∀ operation, operation ≠ .getGame → faults operation = none) :
    (gamesFailing error).Impairs faults := by
  intro operation
  by_cases asked : operation = .getGame
  · exact .inr ⟨error, if_pos asked, isInternal⟩
  · exact .inl ((if_neg asked).trans (rest operation asked).symm)

/-- Whoever asks for a game while the store fails learns nothing of how, nor from the counters. -/
theorem exchanges_discreet_gamesFailing :
    let gateway : Gateway :=
      ⟨⟨"https://idp.example/api/v3", "gateway"⟩, ⟨"session", [], 60, true⟩, 60⟩
    let world := displaying "Atlas" .public
    let meeting (faults : Faults) : Circumstances := ⟨0, 0, faults, world.provider, none⟩
    let request : Request :=
      { method := "GET", path := "/games/00000000-0000-0000-0000-000000000007".toList }
    let counters : Request := { method := "GET", path := "/metrics".toList }
    let run (error : StoreError) :=
      [(meeting (gamesFailing error), request), (meeting Faults.none, counters)]
    let unreadable : StoreError := .io "/srv/catalog.json: Permission denied"
    let garbled : StoreError := .parse "EOF at line 3"
    let impaired := world.under (meeting (gamesFailing unreadable))
    let intact := world.under (meeting Faults.none)
    List.Forall₂ MetAlike (run unreadable) (run garbled) ∧
      List.Forall₂ Exchange.Same (gateway.exchanges world (run unreadable))
        (gateway.exchanges world (run garbled)) ∧
      impaired.Impairs intact ∧
      (gateway.respond request intact).1.status = 200 ∧
      (gateway.respond request impaired).1 = finalize request .internalError := by
  intro gateway world meeting request counters run unreadable garbled impaired intact
  have meets {first second : Faults} (impairs : first.Impairs second) :
      (meeting first).Impairs (meeting second) :=
    ⟨rfl, rfl, impairs, .refl _, id⟩
  have failing {error other : StoreError} (isInternal : error.Internal) :
      (gamesFailing error).Impairs (gamesFailing other) :=
    gamesFailing_impairs isInternal fun _ another => if_neg another
  have unreadableInternal : unreadable.Internal := nofun
  have garbledInternal : garbled.Internal := nofun
  have metAlike : List.Forall₂ MetAlike (run unreadable) (run garbled) := by
    apply List.Forall₂.cons
    · exact ⟨⟨meets (failing unreadableInternal), meets (failing garbledInternal)⟩, rfl⟩
    · exact .cons ⟨⟨meets (.refl _), meets (.refl _)⟩, rfl⟩ .nil
  have impairs : impaired.Impairs intact := by
    apply (World.Impairs.refl world).under
    exact meets (gamesFailing_impairs unreadableInternal fun _ _ => rfl)
  have served : (gateway.respond request intact).1.status = 200 := by decide +kernel
  have failed : (gateway.respond request impaired).1.status = 500 := by decide +kernel
  obtain ⟨same, told⟩ := gateway.exchanges_discreet
  refine ⟨metAlike, same world _ _ metAlike, impairs, served, ?_⟩
  rcases told impaired intact impairs request with sameResponse | internalError
  · rw [sameResponse, served] at failed
    contradiction
  · exact internalError

end Gateway

end GameCatalog
