import GameCatalog.Proofs.Launcher.Confinement
import GameCatalog.Proofs.Store.Coherence

/-!
The catalogue stays coherent.  A service issues keys only for an edition that it has looked up,
and gives a session only for a key that it has found by its text; whatever else is done takes
nothing out that something refers to.  So in every state of every run a session leads to its key,
and the key to its edition.
-/

namespace GameCatalog.Launcher

open Job

section Services

variable {world : World} {circumstances : Circumstances}

def Refers (before after : Document) : Prop :=
  after = before ∨
    ∃ mutation : Store.Mutation, mutation.Refers before ∧ mutation.next? before = some after

theorem refers_of_untouched {before after : Store} (untouched : before.Untouched after) :
    Refers before.live after.live :=
  .inl untouched.live

theorem refers_of_keeps {Error Result : Type} {job : Job Error Result}
    (kept : job.Keeps World.store) (world : World) :
    Refers world.store.live (exec job world).2.store.live :=
  .inl (congrArg Store.live (kept world))

theorem refers_generateKeys (edition : EditionId) (count : Nat) (world : World) :
    Refers world.store.live (exec (generateKeys edition count) world).2.store.live := by
  rcases exec_generateKeys_cases edition count world with
    ⟨keys, after, ended, issued⟩ | ⟨error, after, ended, untouched⟩
  · obtain ⟨symbols, identifiers, after_eq⟩ := issued.after_eq
    rw [ended, after_eq]
    exact .inr ⟨.saveProductKeys edition keys, issued.known, rfl⟩
  · rw [ended]
    exact refers_of_untouched untouched

theorem refers_setStatus (status : KeyStatus) (edition : EditionId) (id : ProductKeyId)
    (world : World) :
    Refers world.store.live (exec (setStatus status edition id) world).2.store.live := by
  rcases exec_setStatus_cases status edition id world with
    ⟨stored, key, after, ended, switched⟩ | ⟨error, after, ended, untouched⟩
  · rw [ended]
    rcases switched.after_eq with ⟨-, rfl⟩ | ⟨-, -, rfl⟩
    · exact .inl rfl
    · refine .inr ⟨.updateProductKeyStatus id status, trivial, ?_⟩
      rw [switched.key_eq]
      simp only [Store.Mutation.next?, Document.updateProductKeyStatus, switched.found]
      rfl
  · rw [ended]
    exact refers_of_untouched untouched

theorem refers_redeem (seconds : Nat) (text : String) (coherent : world.store.live.Coherent) :
    Refers world.store.live (exec (redeem seconds text) world).2.store.live := by
  rcases exec_redeem_cases seconds text world with
    ⟨key, session, after, ended, redeemed⟩ | ⟨error, after, ended, untouched⟩
  · rw [ended, redeemed.after_eq]
    exact .inr ⟨.saveLauncherSession key.id session,
      coherent.isSome_of_findProductKey redeemed.found, rfl⟩
  · rw [ended]
    exact refers_of_untouched untouched

theorem refers_sweep (world : World) :
    Refers world.store.live (exec Sweep.run world).2.store.live := by
  unfold Sweep.run
  rw [exec_get_bind, exec_mutate]
  cases world.faults .deleteExpiredSessions with
  | some error => exact .inl rfl
  | none =>
      have same := Store.Mutation.removed_eq_zero_iff world.store.live world.clock
      rcases Store.deleteExpiredSessions_cases world.store world.clock with
        ⟨-, nothing⟩ | ⟨removed, swept⟩ | ⟨error, after, failed, untouched⟩
      · rw [nothing]
        exact .inl rfl
      · rw [swept]
        exact .inr ⟨.deleteExpiredSessions world.clock, trivial,
          if_neg fun none => removed (same.mpr none)⟩
      · rw [failed]
        exact refers_of_untouched untouched

theorem refers_take (call : Call) (coherent : world.store.live.Coherent) :
    Refers world.store.live (Step.take world circumstances call).after.store.live := by
  cases call with
  | generateKeys edition count =>
      exact refers_generateKeys edition count (world.under circumstances)
  | listKeys edition status =>
      exact refers_of_keeps (keeps_listKeys edition status) (world.under circumstances)
  | switch status edition id =>
      have same : (Call.switch status edition id).job = setStatus status edition id := by
        cases status <;> rfl
      unfold Step.take
      rw [same]
      exact refers_setStatus status edition id (world.under circumstances)
  | redeem seconds text =>
      exact @refers_redeem (world.under circumstances) seconds text coherent
  | validateSession token now =>
      exact refers_of_keeps (.ask (·.validateSession token now)) (world.under circumstances)
  | sweep => exact refers_sweep (world.under circumstances)

theorem coherent_of_refers {before after : Document} (refers : Refers before after)
    (coherent : before.Coherent) : after.Coherent := by
  rcases refers with rfl | ⟨mutation, refers, planned⟩
  · exact coherent
  · exact Store.Mutation.coherent_of_planned refers planned coherent

end Services

/--
The act is a service for launchers, or a change that puts in no key and no session by itself.
-/
def Act.Orderly : Act → Prop
  | .service _ => True
  | .mutate (.saveProductKeys _ _) => False
  | .mutate (.saveLauncherSession _ _) => False
  | .mutate _ => True
  | .reload => False

section Run

variable {world : World} {circumstances : Circumstances} {act : Act}

theorem coherent_perform (orderly : act.Orderly) (coherent : world.store.live.Coherent) :
    (act.perform world circumstances).store.live.Coherent := by
  cases act with
  | service call => exact coherent_of_refers (refers_take call coherent) coherent
  | mutate mutation =>
      have refers : mutation.Refers world.store.live := by
        cases mutation with
        | saveProductKeys edition keys => exact orderly.elim
        | saveLauncherSession productKey session => exact orderly.elim
        | _ => exact trivial
      exact @Store.Mutation.coherent_perform (world.under circumstances).store mutation refers
        coherent
  | reload => exact orderly.elim

theorem coherent_afterActs {acts : List (Circumstances × Act)}
    (orderly : ∀ done ∈ acts, done.2.Orderly) (coherent : world.store.live.Coherent) :
    (afterActs world acts).store.live.Coherent := by
  induction acts generalizing world with
  | nil => exact coherent
  | cons done rest inductionHypothesis =>
      obtain ⟨now, later⟩ := List.forall_mem_cons.mp orderly
      exact inductionHypothesis later (coherent_perform now coherent)

end Run

/--
The catalogue stays coherent in every run of the services and of the operators' changes, whatever
fails in its course: the empty document is coherent, and a coherent one stays so.  Therefore no
session is lost to the lookup.  A session is found by a token exactly if one is stored with that
token, and it comes with its stored key and with the stored edition of the key.
-/
theorem afterActs_coherent :
    Document.empty.Coherent ∧
    ∀ (world : World) (acts : List (Circumstances × Act)), world.store.live.Coherent →
      (∀ done ∈ acts, done.2.Orderly) →
      let document := (afterActs world acts).store.live
      document.Coherent ∧ ∀ token,
        ((∃ access, document.findLauncherSession token = some access) ↔
          ∃ stored ∈ document.launcherSessions.values,
            stored.session.accessToken.expose = token) ∧
        ∀ access, document.findLauncherSession token = some access →
          document.Joins token access := by
  refine ⟨Document.coherent_empty, fun world acts coherent orderly => ?_⟩
  intro document
  have coherentAfter : document.Coherent := coherent_afterActs orderly coherent
  refine ⟨coherentAfter, fun token => ⟨⟨?_, ?_⟩, fun access => coherentAfter.joins_of_found⟩⟩
  · rintro ⟨access, found⟩
    have joins := coherentAfter.joins_of_found found
    exact ⟨_, Table.mem_values_iff.mpr ⟨_, joins.session⟩, joins.token⟩
  · rintro ⟨stored, there, sameToken⟩
    exact coherentAfter.isSome_findLauncherSession there sameToken

def vacant : World := { stocked with store := ⟨.empty, {}⟩ }

/-- An edition is put in, a key is issued and redeemed, a write fails, the key is revoked. -/
theorem afterActs_coherent_vacant :
    let calm : Circumstances := ⟨0, 0, Faults.none, stocked.provider, none⟩
    let edition : Edition := ⟨⟨1⟩, "Spring", none, [], [], 0⟩
    let acts : List (Circumstances × Act) :=
      [(calm, .mutate (.insertEdition edition)), (calm, .service (.generateKeys ⟨1⟩ 1)),
        (calm, .service (.redeem 1 zeros.key.expose)),
        ({ calm with refusal := some ⟨.rename, "full"⟩ }, .mutate (.grantAdmin ⟨7⟩)),
        (calm, .service (.switch .inactive ⟨1⟩ zeros.id)), (calm, .service .sweep)]
    let document := (afterActs vacant acts).store.live
    document.Coherent ∧
      document.findLauncherSession zerosSession.accessToken.expose =
        some ⟨zerosSession, { zeros with status := .inactive }, edition⟩ := by
  intro calm edition acts document
  have orderly : ∀ done ∈ acts, done.2.Orderly := by
    simp [acts, Act.Orderly]
  have stays := afterActs_coherent.2 vacant acts Document.coherent_empty orderly
  exact ⟨stays.1, by decide +kernel⟩

end GameCatalog.Launcher
