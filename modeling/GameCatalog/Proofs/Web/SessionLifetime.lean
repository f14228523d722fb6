import GameCatalog.Proofs.Launcher.Lifecycle
import GameCatalog.Proofs.Store.Coherence
import GameCatalog.Proofs.Web.Handler
import GameCatalog.Proofs.Web.LoginEndings

/-!
How long a launcher session lasts.  Its end is computed in milliseconds and stops at the last
instant, while the client is told seconds; as long as the end fits into the range of instants, the
token is good for exactly as long as the client is told.  It is good for nothing, though, where
the key has no edition to lead to.
-/

namespace GameCatalog

open Job

namespace Document

/-- A session for the key with this identifier leads to an edition. -/
def Anchored (document : Document) (id : ProductKeyId) : Prop :=
  ∃ stored, document.productKeys.get? id = some stored ∧
    (document.editions.get? stored.edition).isSome = true

variable {document : Document}

/-- No session that is stored has the token of the given one. -/
def NewToken (document : Document) (session : LauncherSession) : Prop :=
  ∀ stored ∈ document.launcherSessions.values,
    stored.session.accessToken.expose ≠ session.accessToken.expose

theorem findLauncherSession_insert {id : ProductKeyId} {session : LauncherSession}
    (anchored : document.Anchored id) (newToken : document.NewToken session) :
    ∃ access, (document.insertLauncherSession id session).findLauncherSession
      session.accessToken.expose = some access ∧ access.session = session := by
  obtain ⟨key, there, known⟩ := anchored
  obtain ⟨edition, found⟩ := Option.isSome_iff_exists.mp known
  have searched : ((document.insertLauncherSession id session).launcherSessions.search fun stored =>
      decide (stored.session.accessToken.expose = session.accessToken.expose)) =
        some ⟨id, session⟩ := by
    have there : (document.insertLauncherSession id session).launcherSessions.get? session.id =
        some ⟨id, session⟩ := by
      simp [insertLauncherSession, Table.get?_insert]
    apply Table.search_eq_some_of_unique there (decide_eq_true rfl)
    intro stored membership sameToken
    rcases Table.mem_values_insert membership with rfl | before
    · rfl
    · exact absurd (of_decide_eq_true sameToken) (newToken stored before)
  refine ⟨⟨session, key.productKey, edition⟩, ?_, rfl⟩
  unfold findLauncherSession
  rw [searched]
  simp [insertLauncherSession, there, found]

end Document

theorem Repository.validateSession_ok_iff {repository : Repository} {token : String}
    {access : LauncherAccess}
    (found : repository.document.findLauncherSession token = some access) (now : Instant) :
    (∃ given, repository.validateSession token now = .ok given) ↔
      repository.faults .findLauncherSession = none ∧ now < access.session.expiresAt := by
  unfold validateSession findLauncherSession answer
  cases reads : repository.faults .findLauncherSession with
  | some error => simp
  | none =>
      by_cases inTime : now < access.session.expiresAt
      · simp [found, LauncherSession.isExpiredAt, inTime, UInt64.not_le.mpr inTime]
      · simp [found, LauncherSession.isExpiredAt, inTime, UInt64.not_lt.mp inTime]

namespace Launcher

theorem lt_expiresAt_nextSession {seconds : Nat} {world : World}
    (early : world.clock.toNat < Instant.last) :
    world.clock < (nextSession seconds world).expiresAt := by
  apply Instant.lt_later_iff.mpr
  unfold lifetime
  omega

end Launcher

namespace Gateway

variable {gateway : Gateway} {request : Request} {world : World}

theorem redeemed_of_created (redeems : request.Reaches .redeem)
    (created : (gateway.respond request world).1.status = 201) :
    ∃ text key session redeemed, request.jsonBody Handler.redeemForm.decoder = .ok text ∧
      Launcher.Redeemed gateway.sessionSeconds (Blank.trim text) world key session redeemed ∧
      (gateway.respond request world).1.body = .json (session.view gateway.sessionSeconds) ∧
      (gateway.respond request world).2.store = redeemed.store := by
  have notHead : request.method ≠ "HEAD" := by
    obtain ⟨encoded, reached⟩ := redeems
    rw [(Route.reached?_redeem reached).1]
    decide
  obtain ⟨visit, rfl, responds, left⟩ := @respond_of_open gateway request world _ rfl redeems
  have leftStore := congrArg World.store left
  rw [responds, finalize, if_neg notHead] at created
  rw [responds, finalize, if_neg notHead]
  rcases Handler.exec_redeem_cases gateway visit.request world with
    ⟨text, key, session, redeemed, after, asked, ended, outcome, kept⟩ | ⟨failure, after, failed, -⟩
  · refine ⟨text, key, session, redeemed, asked, outcome, ?_, ?_⟩
    · simp only [handleOpen, ended]
      rfl
    · simp only [handleOpen, ended] at leftStore
      exact leftStore.trans kept
  · simp only [handleOpen, failed] at created
    exact absurd created (Failure.status_ne_of_lt failure (by decide))

/--
The lifetime of launcher sessions, for every clock and every setting.  An active key is redeemed
where its text can be looked up and the session can be written, and the session ends when it
should in exact arithmetic, or at the last instant; so it is good when it is given.  The token
that a browser is given is good for exactly as long as the browser is told, provided that this
fits into the range of instants, that the key is anchored and that the token is new.
-/
theorem redeem_lifetime (gateway : Gateway) (world : World) :
    (∀ seconds text key, ProductKeyText.isValid text = true →
      world.store.live.findProductKey text = some key → key.status = .active →
      world.faults .findProductKey = none → world.faults .saveLauncherSession = none →
      world.store.disk.refusal? = none →
      ∃ session after, exec (Launcher.redeem seconds text) world = (.ok session, after)) ∧
    (∀ seconds text session after,
      exec (Launcher.redeem seconds text) world = (.ok session, after) →
      session.expiresAt.toNat = min (2 ^ 64 - 1) (world.clock.toNat + max 1 (1000 * seconds)) ∧
      (world.clock.toNat < 2 ^ 64 - 1 → world.clock < session.expiresAt)) ∧
    ∀ request : Request, request.Reaches .redeem →
      let created := gateway.respond request world
      created.1.status = 201 →
      ∃ text key session told, request.jsonBody Handler.redeemForm.decoder = .ok text ∧
        world.store.live.findProductKey (Blank.trim text) = some key ∧ key.status = .active ∧
        created.1.body = .json (.object
          [("accessToken", .text session.accessToken.expose), ("expiresIn", .natural told)]) ∧
        told = gateway.sessionSeconds ∧
        (world.store.live.Anchored key.id → world.store.live.NewToken session → 1 ≤ told →
          world.clock.toNat + 1000 * told ≤ 2 ^ 64 - 1 →
          ∀ (circumstances : Circumstances) (instant : Instant),
            (∃ access, (created.2.under circumstances).repository.validateSession
              session.accessToken.expose instant = .ok access) ↔
            circumstances.faults .findLauncherSession = none ∧
              instant.toNat < world.clock.toNat + 1000 * told) := by
  refine ⟨?_, ?_, ?_⟩
  · intro seconds text key valid found active reads saves accepts
    obtain ⟨after, ended, -⟩ :=
      Launcher.exec_redeem_of_accepts valid reads found active saves accepts
    exact ⟨_, after, ended⟩
  · intro seconds text session after ended
    obtain ⟨key, redeemed⟩ := Launcher.redeemed_of_ok ended
    rw [redeemed.drawn]
    exact ⟨Instant.toNat_later _ _, Launcher.lt_expiresAt_nextSession⟩
  · intro request redeems created status
    obtain ⟨text, key, session, redeemed, asked, outcome, body, left⟩ :=
      redeemed_of_created redeems status
    refine ⟨text, key, session, _, asked, outcome.found, outcome.active, body, rfl, ?_⟩
    intro anchored newToken positive fits circumstances instant
    obtain ⟨access, found, sameSession⟩ := Document.findLauncherSession_insert anchored newToken
    have stored : (created.2.under circumstances).repository.document =
        world.store.live.insertLauncherSession key.id session := by
      change created.2.store.live = _
      rw [left, outcome.after_eq]
      rfl
    have ends : instant < session.expiresAt ↔
        instant.toNat < world.clock.toNat + 1000 * gateway.sessionSeconds := by
      rw [outcome.drawn]
      refine Instant.lt_later_iff.trans ?_
      unfold Launcher.lifetime Instant.last
      omega
    rw [Repository.validateSession_ok_iff (stored ▸ found), sameSession, ends]
    rfl

section Selling

attribute [local irreducible] respond

def buy : Request where
  method := "POST"
  path := "/editions/authorize".toList
  headers := [("content-type", Utf8.encode "application/json")]
  body := Utf8.encode "\x7b\"key\":\"00000-00000-00000-00000-00000\"\x7d"

def zerosToken : String := "0000000000000000000000000000000000000000000000000000000000000000"

def selling (document : Document) : World where
  store := ⟨document, {}⟩
  clock := 0
  symbols := ⟨List.replicate 64 0, 0⟩
  identifiers := ⟨List.replicate 16 0, 0⟩
  provider := granting.provider

def supplied : Document := {
  Document.empty with
  editions := Table.empty.insert ⟨1⟩ ⟨⟨1⟩, "", none, [], [], 0⟩
  productKeys := Table.empty.insert Launcher.zeros.id ⟨⟨1⟩, Launcher.zeros⟩ }

theorem reaches_buy : buy.Reaches .redeem := ⟨[], by decide +kernel⟩

theorem jsonBody_buy :
    buy.jsonBody Handler.redeemForm.decoder = .ok Launcher.zeros.key.expose := by decide +kernel

theorem status_buy_supplied : (secured.respond buy (selling supplied)).1.status = 201 := by
  decide +kernel

theorem redeem_lifetime_supplied :
    let created := secured.respond buy (selling supplied)
    let later := created.2.under ⟨0, 0, Faults.none, granting.provider, none⟩
    created.1.status = 201 ∧ ∃ session : LauncherSession,
      created.1.body = .json (.object
        [("accessToken", .text session.accessToken.expose), ("expiresIn", .natural 60)]) ∧
      (∃ access, later.repository.validateSession session.accessToken.expose 59999 =
        .ok access) ∧
      ¬∃ access, later.repository.validateSession session.accessToken.expose 60000 =
        .ok access := by
  intro created later
  obtain ⟨text, key, session, told, asked, found, -, body, rfl, good⟩ :=
    (redeem_lifetime secured (selling supplied)).2.2 buy reaches_buy status_buy_supplied
  cases asked.symm.trans jsonBody_buy
  have zeros : supplied.findProductKey (Blank.trim Launcher.zeros.key.expose) =
      some Launcher.zeros := by decide +kernel
  cases found.symm.trans zeros
  have works := good ⟨_, rfl, rfl⟩ nofun (by decide) (by decide)
    ⟨0, 0, Faults.none, granting.provider, Option.none⟩
  refine ⟨status_buy_supplied, session, body, ?_, ?_⟩
  · exact (works 59999).mpr ⟨rfl, by decide⟩
  · intro late
    exact absurd ((works 60000).mp late).2 (by decide)

/-- A token of a minute is sold for an active key, and is good for nothing from the beginning. -/
def SoldInVain (document : Document) : Prop :=
  let created := secured.respond buy (selling document)
  document.findProductKey Launcher.zeros.key.expose = some Launcher.zeros ∧
    Launcher.zeros.status = .active ∧ buy.Reaches .redeem ∧ created.1.status = 201 ∧
    created.1.body = .json (.object
      [("accessToken", .text zerosToken), ("expiresIn", .natural 60)]) ∧
    ¬∃ access, created.2.repository.validateSession zerosToken (selling document).clock = .ok access

def orphaned : Document := { supplied with editions := Table.empty }

def misplaced : Document :=
  { supplied with productKeys := Table.empty.insert ⟨2⟩ ⟨⟨1⟩, Launcher.zeros⟩ }

/-- There is a session with the token of zeros, which has ended. -/
def taken : Document := {
  supplied with
  launcherSessions := Table.empty.insert ⟨3⟩ ⟨Launcher.zeros.id, ⟨⟨3⟩, ⟨zerosToken⟩, 0⟩⟩ }

theorem soldInVain_of_error {document : Document} {error : LauncherError}
    (found : document.findProductKey Launcher.zeros.key.expose = some Launcher.zeros)
    (status : (secured.respond buy (selling document)).1.status = 201)
    (refused : (secured.respond buy (selling document)).2.repository.validateSession zerosToken 0 =
      .error error) : SoldInVain document := by
  obtain ⟨text, key, session, redeemed, -, outcome, body, -⟩ :=
    redeemed_of_created reaches_buy status
  have drawn : (AccessToken.draw ⟨List.replicate 64 0, 0⟩).1 = zerosToken := by decide +kernel
  have token : session.accessToken.expose = zerosToken := by
    rw [outcome.drawn]
    exact drawn
  refine ⟨found, rfl, reaches_buy, status, ?_, ?_⟩
  · rw [body, LauncherSession.view, token]
    rfl
  · rintro ⟨access, good⟩
    exact nomatch refused.symm.trans good

/-- Without the edition, under another identifier and with a token that is taken, it is in vain. -/
theorem soldInVain_unanchored :
    SoldInVain orphaned ∧ SoldInVain misplaced ∧ SoldInVain taken := by
  refine ⟨?_, ?_, ?_⟩
  · exact @soldInVain_of_error _ .invalidToken (by decide +kernel) (by decide +kernel)
      (by decide +kernel)
  · exact @soldInVain_of_error _ .invalidToken (by decide +kernel) (by decide +kernel)
      (by decide +kernel)
  · exact @soldInVain_of_error _ .expired (by decide +kernel) (by decide +kernel)
      (by decide +kernel)

end Selling

end Gateway

end GameCatalog
