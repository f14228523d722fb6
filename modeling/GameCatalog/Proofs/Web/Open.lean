import GameCatalog.Proofs.Respects
import GameCatalog.Proofs.Web.Serving

/-!
The endpoints that are open to everyone: the report of health, logging in and out, and redeeming a
key.  In worlds that are alike they answer alike, and they leave alike worlds behind; only the
counters tell such worlds apart.
-/

namespace GameCatalog

open Job

variable {alike : World → World → Prop} (likeness : Likeness alike)

namespace Login

include likeness

theorem respects_start (settings : Settings) : (start settings).Respects alike := by
  refine .bind (.drawSymbols likeness _) fun verifier => ?_
  refine .bind (.drawSymbols likeness _) fun state => ?_
  dsimp only
  split
  · exact .pure _
  · exact .throw _

theorem respects_finish (attempt : Option LoginAttempt) (code : String) (state : Option String)
    (now : Instant) : (finish attempt code state now).Respects alike := by
  unfold finish
  cases attempt with
  | none => exact .throw _
  | some attempt =>
      dsimp only
      split
      · exact .throw_bind _ _
      · exact .bind (.call likeness _ _) fun _ => .bind (.call likeness _ _) fun _ => .pure _

theorem respects_logout (session : Option IdentitySession) : (logout session).Respects alike := by
  unfold logout
  cases session with
  | none => exact .throw _
  | some session => exact .call likeness _ _

end Login

namespace Launcher

include likeness

theorem respects_redeem (seconds : Nat) (text : String) :
    (redeem seconds text).Respects alike := by
  have found : (ask (·.findProductKey text)).Respects alike :=
    .mapError _ (.ask fun _ _ areAlike => likeness.findProductKey areAlike text)
  have saved (key : ProductKeyId) (session : LauncherSession) :
      ((Job.mutate .saveLauncherSession (·.saveLauncherSession key session)).mapError
        LauncherError.ofStore).Respects alike :=
    .mapError _ (.mutate likeness _ fun _ _ areAlike =>
      likeness.saveLauncherSession areAlike key session)
  unfold redeem
  split
  · exact .throw_bind _ _
  · refine .bind found fun key? => ?_
    cases key? with
    | none => exact .throw _
    | some key =>
        dsimp only
        split
        · exact .throw_bind _ _
        · refine .bind (.drawIdentifier likeness) fun id => ?_
          refine .bind (.drawSymbols likeness _) fun token => ?_
          refine .get_bind (fun _ _ areAlike => by rw [likeness.clock areAlike]) fun world => ?_
          exact .bind (saved _ _) fun _ => .pure _

end Launcher

namespace Handler

theorem respects_expect {Value : Type} (read : Except Failure Value) :
    (expect read).Respects alike := by
  cases read with
  | ok value => exact .pure value
  | error failure => exact .throw failure

include likeness

theorem respects_health : health.Respects alike :=
  .get_bind (fun _ _ areAlike => by rw [likeness.uptime areAlike]) fun _ => .pure _

theorem respects_takeLogin {Value : Type} (step : LoginStep) (result : Except LoginError Value) :
    (takeLogin step result).Respects alike := by
  cases result with
  | ok value => exact .pure _
  | error error => exact .bind (.observe likeness _) fun _ => .throw _

theorem respects_startLogin (gateway : Gateway) (request : Request) :
    (startLogin gateway request).Respects alike := by
  refine .bind (.attempt (Login.respects_start likeness _)) fun result => ?_
  refine .bind (respects_takeLogin likeness _ _) fun outcome => ?_
  exact .bind (.observe likeness _) fun _ => .pure _

theorem respects_finishLogin (gateway : Gateway) (request : Request) :
    (finishLogin gateway request).Respects alike := by
  refine .bind (respects_expect _) fun fields => ?_
  dsimp only
  split
  · exact .bind (.observe likeness _) fun _ => .throw _
  · refine .get_bind (fun _ _ areAlike => by rw [likeness.clock areAlike]) fun world => ?_
    refine .bind (.attempt (Login.respects_finish likeness _ _ _ _)) fun result => ?_
    refine .bind (respects_takeLogin likeness _ _) fun outcome => ?_
    exact .bind (.observe likeness _) fun _ => .pure _

theorem respects_logout (gateway : Gateway) (request : Request) :
    (logout gateway request).Respects alike := by
  refine .bind (.attempt (Login.respects_logout likeness _)) fun result => ?_
  refine .bind (respects_takeLogin likeness _ _) fun _ => ?_
  refine .bind (.observe likeness _) fun _ => ?_
  exact .get_bind (fun _ _ areAlike => by rw [likeness.clock areAlike]) fun _ => .pure _

theorem respects_redeem (gateway : Gateway) (request : Request) :
    (redeem gateway request).Respects alike := by
  refine .bind (respects_expect _) fun text => ?_
  refine .bind (.attempt (Launcher.respects_redeem likeness _ _)) fun result => ?_
  cases result with
  | ok session => exact .bind (.observe likeness _) fun _ => .pure _
  | error error => exact .bind (.observe likeness _) fun _ => .throw _

end Handler

namespace Gateway

include likeness

theorem respects_handleOpen (gateway : Gateway) (visit : Visit) {endpoint : Endpoint}
    (noMetrics : endpoint ≠ .metrics) : (gateway.handleOpen visit endpoint).Respects alike := by
  cases endpoint with
  | health => exact Handler.respects_health likeness
  | metrics => contradiction
  | startLogin => exact Handler.respects_startLogin likeness gateway visit.request
  | finishLogin => exact Handler.respects_finishLogin likeness gateway visit.request
  | logout => exact Handler.respects_logout likeness gateway visit.request
  | redeem => exact Handler.respects_redeem likeness gateway visit.request
  | _ => exact .throw _

/-- A request is answered alike in alike worlds if the endpoint that it reaches serves it alike. -/
theorem respond_of_served (gateway : Gateway) {first second : World} {request : Request}
    (areAlike : alike first second)
    (served : ∀ endpoint encoded,
      Route.reached? request.path request.method = some (endpoint, encoded) →
        (exec (gateway.serve (visitOf request encoded) endpoint) first).1 =
            (exec (gateway.serve (visitOf request encoded) endpoint) second).1 ∧
          alike (exec (gateway.serve (visitOf request encoded) endpoint) first).2
            (exec (gateway.serve (visitOf request encoded) endpoint) second).2) :
    (gateway.respond request first).1 = (gateway.respond request second).1 ∧
      alike (gateway.respond request first).2 (gateway.respond request second).2 := by
  cases reached : Route.reached? request.path request.method with
  | none =>
      rw [respond_of_answer gateway request first
          (run_answer_of_unreached gateway request first reached),
        respond_of_answer gateway request second
          (run_answer_of_unreached gateway request second reached)]
      exact ⟨rfl, likeness.recorded areAlike _ _ _ _⟩
  | some place =>
      obtain ⟨endpoint, encoded⟩ := place
      obtain ⟨sameEnding, alikeAfter⟩ := served endpoint encoded reached
      rw [respond_of_answer gateway request first
          ((run_answer_of_reached gateway request first reached).trans (run_conclude first _)),
        respond_of_answer gateway request second
          ((run_answer_of_reached gateway request second reached).trans (run_conclude second _)),
        sameEnding]
      exact ⟨rfl, likeness.recorded alikeAfter _ _ _ _⟩

end Gateway

end GameCatalog
