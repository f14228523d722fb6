import GameCatalog.Proofs.Login.Outcome
import Mathlib.Algebra.Group.Nat.Defs

/-!
How long a login is trusted.  The end of a token is computed in three steps, each of which stops
where the range of instants ends: the seconds that the token is valid become milliseconds, these
are added to the present, and the margin is taken off.  Compared with exact arithmetic nothing is
lost but at the last instant, and there the login is given up early, never late.
-/

namespace GameCatalog

open Job

theorem Authentication.ofSession_some (session : IdentitySession) (now : Instant) :
    ofSession (some session) now = if now < session.expiresAt then .valid else .expired := by
  unfold ofSession IdentitySession.isExpiredAt
  by_cases inTime : now < session.expiresAt
  · simp [inTime, UInt64.not_le.mpr inTime]
  · simp [inTime, UInt64.not_lt.mp inTime]

namespace Login

variable {now instant : Instant} {grant : TokenGrant}

theorem toNat_expiry (now : Instant) (grant : TokenGrant) :
    (expiry now grant).toNat =
      min Instant.last (now.toNat + min Instant.last (1000 * grant.expiresIn.toNat)) - margin := by
  unfold expiry
  rw [Instant.toNat_earlier, ← Instant.later_min_last, Instant.toNat_later]

theorem lt_expiry_iff :
    instant < expiry now grant ↔
      instant.toNat + margin < min Instant.last (now.toNat + 1000 * grant.expiresIn.toNat) := by
  rw [UInt64.lt_iff_toNat_lt, toNat_expiry]
  omega

theorem granted_of_finished {attempt : Option LoginAttempt} {code : String}
    {state : Option String} {world after : World} {outcome : Outcome}
    (finished : exec (finish attempt code state now) world = (.ok outcome, after)) :
    ∃ begun grant, attempt = some begun ∧
      world.provider.exchangeCode code begun.verifier.expose = .ok grant ∧
      outcome.session = identityOf now grant := by
  cases attempt with
  | none =>
      rw [exec_finish_of_no_attempt] at finished
      exact nomatch finished
  | some begun =>
  by_cases same : state = some begun.state
  · subst same
    rw [exec_finish_of_same_state] at finished
    cases exchanged : world.provider.exchangeCode code begun.verifier.expose with
    | error error =>
        simp only [exchanged] at finished
        exact nomatch finished
    | ok grant =>
        refine ⟨begun, grant, rfl, exchanged, ?_⟩
        simp only [exchanged] at finished
        split at finished
        · exact nomatch finished
        · cases finished
          rfl
  · rw [exec_finish_of_other_state same] at finished
    exact nomatch finished

/--
How long a login is trusted that ended well now: up to five seconds before the end of its token,
and before the last instant, in exact arithmetic.  So it is over when the token is, and one whose
token is valid for five seconds at most is over from the beginning.
-/
theorem finish_valid_iff {attempt : Option LoginAttempt} {code : String} {state : Option String}
    {world after : World} {outcome : Outcome}
    (finished : exec (finish attempt code state now) world = (.ok outcome, after)) :
    ∃ begun grant, attempt = some begun ∧
      world.provider.exchangeCode code begun.verifier.expose = .ok grant ∧
      ∀ instant : Instant,
        let ends := now.toNat + 1000 * grant.expiresIn.toNat
        let state := Authentication.ofSession (some outcome.session) instant
        (state = .valid ↔ instant.toNat + 5000 < min (2 ^ 64 - 1) ends) ∧
        (state = .expired ↔ min (2 ^ 64 - 1) ends ≤ instant.toNat + 5000) ∧
        (ends ≤ instant.toNat + 5000 → state = .expired) ∧
        (grant.expiresIn.toNat ≤ 5 → now ≤ instant → state = .expired) := by
  obtain ⟨begun, grant, began, exchanged, session⟩ := granted_of_finished finished
  refine ⟨begun, grant, began, exchanged, fun instant => ?_⟩
  intro ends state
  have inTime : instant < outcome.session.expiresAt ↔
      instant.toNat + 5000 < min (2 ^ 64 - 1) ends := by
    rw [session]
    exact lt_expiry_iff
  have valid : state = .valid ↔ instant.toNat + 5000 < min (2 ^ 64 - 1) ends := by
    rw [← inTime]
    simp [state, Authentication.ofSession_some]
  have expired : state = .expired ↔ min (2 ^ 64 - 1) ends ≤ instant.toNat + 5000 := by
    rw [← Nat.not_lt, ← inTime]
    simp [state, Authentication.ofSession_some]
  refine ⟨valid, expired, ?_, ?_⟩
  · intro elapsed
    exact expired.mpr (by omega)
  · intro short later
    rw [UInt64.le_iff_toNat_le] at later
    exact expired.mpr (by omega)

def lending (seconds : UInt64) : World where
  store := ⟨.empty, {}⟩
  clock := 0
  symbols := ⟨[], 0⟩
  identifiers := ⟨[], 0⟩
  provider := ⟨fun _ _ => .ok ⟨"", "token", seconds, none⟩, fun _ => .ok ⟨⟨7⟩, "ada"⟩,
    fun _ => .ok ()⟩

theorem finish_valid_iff_lending :
    let begun : LoginAttempt := ⟨.s256, ⟨"verifier"⟩, "state"⟩
    let finished (seconds : UInt64) (now : Instant) :=
      exec (finish (some begun) "c" (some "state") now) (lending seconds)
    (∃ outcome, (finished 0xFFFFFFFFFFFFFFFF 7).1 = .ok outcome ∧
      Authentication.ofSession (some outcome.session) (0xFFFFFFFFFFFFFFFF - 5001) = .valid ∧
      Authentication.ofSession (some outcome.session) (0xFFFFFFFFFFFFFFFF - 5000) = .expired) ∧
    ∃ outcome, (finished 5 7).1 = .ok outcome ∧
      Authentication.ofSession (some outcome.session) 7 = .expired := by
  intro begun finished
  constructor
  · obtain ⟨_, grant, began, exchanged, trusted⟩ :=
      @finish_valid_iff 7 (some begun) "c" (some "state") (lending 0xFFFFFFFFFFFFFFFF) _ _ rfl
    cases exchanged
    exact ⟨_, rfl, (trusted _).1.mpr (by decide), (trusted _).2.1.mpr (by decide)⟩
  · obtain ⟨_, grant, began, exchanged, trusted⟩ :=
      @finish_valid_iff 7 (some begun) "c" (some "state") (lending 5) _ _ rfl
    cases exchanged
    exact ⟨_, rfl, (trusted _).2.2.2 (by decide) (by decide)⟩

end Login

end GameCatalog
