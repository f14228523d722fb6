import GameCatalog.Launcher.Sweep
import GameCatalog.Proofs.Job
import GameCatalog.Proofs.Store.Commit

/-!
How the services for launchers end.  For each service that writes there is a description
of its success, and a theorem by which it either succeeds as described or fails and leaves
the store untouched.
-/

namespace GameCatalog.Launcher

open Job

attribute [local irreducible] AccessToken.draw ProductKeyText.draw Stream.identifier

@[simp]
theorem exec_ask {Result : Type} (question : Repository → Except StoreError Result)
    (world : World) :
    exec (ask question) world =
      ((question world.repository).mapError .ofStore, world) := by
  simp [ask]

theorem saveLauncherSession_commits (key : ProductKeyId) (session : LauncherSession)
    (store : Store) : store.saveLauncherSession key session =
      store.commit fun document => .ok ((), document.insertLauncherSession key session) := rfl

theorem saveProductKeys_commits (edition : EditionId) (keys : List ProductKey)
    (store : Store) : store.saveProductKeys edition keys =
      store.commit fun document => .ok ((), document.insertProductKeys edition keys) := rfl

section Redeem

variable {seconds : Nat} {text : String} {world after : World}

def nextSession (seconds : Nat) (world : World) : LauncherSession where
  id := world.identifiers.identifier.1
  accessToken := ⟨(AccessToken.draw world.symbols).1⟩
  expiresAt := world.clock.later (lifetime seconds)

def drewSession (world : World) : World := {
  world with
  symbols := (AccessToken.draw world.symbols).2
  identifiers := (@Stream.identifier .launcherSession world.identifiers).2 }

@[simp]
theorem drewSession_store (world : World) : (drewSession world).store = world.store := rfl

@[simp]
theorem drewSession_faults (world : World) : (drewSession world).faults = world.faults := rfl

/-- The key with the given text was redeemed for a session. -/
structure Redeemed (seconds : Nat) (text : String) (world : World) (key : ProductKey)
    (session : LauncherSession) (after : World) : Prop where
  valid : ProductKeyText.isValid text = true
  found : world.store.live.findProductKey text = some key
  active : key.status = .active
  drawn : session = nextSession seconds world
  accepts : world.store.disk.refusal? = none
  after_eq : after = {
    drewSession world with
    store := world.store.written (world.store.live.insertLauncherSession key.id session) }

theorem exec_redeem_of_invalid (invalid : ProductKeyText.isValid text = false) :
    exec (redeem seconds text) world = (.error .invalidKey, world) := by
  simp [redeem, invalid]

theorem exec_redeem_of_unread {error : StoreError}
    (valid : ProductKeyText.isValid text = true)
    (fails : world.faults .findProductKey = some error) :
    exec (redeem seconds text) world = (.error (.ofStore error), world) := by
  simp [redeem, valid, exec_bind, Repository.findProductKey, Repository.answer,
    World.repository, fails, Except.mapError]

theorem exec_redeem_of_missing (reads : world.faults .findProductKey = none)
    (missing : world.store.live.findProductKey text = none) :
    exec (redeem seconds text) world = (.error .invalidKey, world) := by
  cases valid : ProductKeyText.isValid text with
  | false => exact exec_redeem_of_invalid valid
  | true =>
      simp [redeem, valid, exec_bind, Repository.findProductKey, Repository.answer,
        World.repository, reads, missing, Except.mapError]

theorem exec_redeem_of_inactive {key : ProductKey} (reads : world.faults .findProductKey = none)
    (found : world.store.live.findProductKey text = some key) (inactive : key.status ≠ .active) :
    exec (redeem seconds text) world = (.error .invalidKey, world) := by
  cases valid : ProductKeyText.isValid text with
  | false => exact exec_redeem_of_invalid valid
  | true =>
      simp [redeem, valid, exec_bind, Repository.findProductKey, Repository.answer,
        World.repository, reads, found, inactive, Except.mapError]

theorem exec_redeem_of_active {key : ProductKey} (valid : ProductKeyText.isValid text = true)
    (reads : world.faults .findProductKey = none)
    (found : world.store.live.findProductKey text = some key) (active : key.status = .active) :
    exec (redeem seconds text) world =
      exec (do
          (mutate .saveLauncherSession (·.saveLauncherSession key.id
            (nextSession seconds world))).mapError .ofStore
          return nextSession seconds world)
        (drewSession world) := by
  simp [redeem, valid, exec_bind, Repository.findProductKey, Repository.answer,
    World.repository, reads, found, active, Except.mapError]
  rfl

theorem exec_redeem_of_accepts {key : ProductKey} (valid : ProductKeyText.isValid text = true)
    (reads : world.faults .findProductKey = none)
    (found : world.store.live.findProductKey text = some key) (active : key.status = .active)
    (saves : world.faults .saveLauncherSession = none)
    (accepts : world.store.disk.refusal? = none) :
    ∃ after, exec (redeem seconds text) world = (.ok (nextSession seconds world), after) ∧
      Redeemed seconds text world key (nextSession seconds world) after := by
  refine ⟨_, ?_, ⟨valid, found, active, rfl, accepts, rfl⟩⟩
  have committed := exec_commit_of_accepts
    (saveLauncherSession_commits key.id (nextSession seconds world)) LauncherError.ofStore
    (drewSession world) (by simpa using saves) rfl (by simpa using accepts)
  rw [exec_redeem_of_active valid reads found active, exec_bind_of_ok committed]
  rfl

theorem exec_redeem_of_denies {key : ProductKey} {error : StoreError}
    (valid : ProductKeyText.isValid text = true) (reads : world.faults .findProductKey = none)
    (found : world.store.live.findProductKey text = some key) (active : key.status = .active)
    (denies : Denies world .saveLauncherSession error) :
    ∃ after, exec (redeem seconds text) world = (.error (.ofStore error), after) := by
  have deniesToo : Denies (drewSession world) .saveLauncherSession error := denies
  obtain ⟨store, denied, -⟩ := exec_commit_of_denies
    (saveLauncherSession_commits key.id (nextSession seconds world)) LauncherError.ofStore
    deniesToo rfl
  rw [exec_redeem_of_active valid reads found active]
  exact ⟨_, exec_bind_of_error denied⟩

/-- A redemption gives a session for an active key, or fails and touches nothing. -/
theorem exec_redeem_cases (seconds : Nat) (text : String) (world : World) :
    (∃ key session after, exec (redeem seconds text) world = (.ok session, after) ∧
      Redeemed seconds text world key session after) ∨
    ∃ error after, exec (redeem seconds text) world = (.error error, after) ∧
      world.store.Untouched after.store := by
  cases valid : ProductKeyText.isValid text with
  | false => exact .inr ⟨_, _, exec_redeem_of_invalid valid, .refl _⟩
  | true =>
  cases reads : world.faults .findProductKey with
  | some error => exact .inr ⟨_, _, exec_redeem_of_unread valid reads, .refl _⟩
  | none =>
  cases found : world.store.live.findProductKey text with
  | none => exact .inr ⟨_, _, exec_redeem_of_missing reads found, .refl _⟩
  | some key =>
  by_cases active : key.status = .active
  · rcases exec_commit_cases (saveLauncherSession_commits key.id (nextSession seconds world))
        .saveLauncherSession LauncherError.ofStore (drewSession world) with
      ⟨_, next, saves, -, accepts, -⟩ | ⟨error, store, committed, untouched⟩
    · obtain ⟨after, ended, redeemed⟩ :=
        exec_redeem_of_accepts valid reads found active saves accepts
      exact .inl ⟨key, _, after, ended, redeemed⟩
    · refine .inr ⟨.ofStore error, { drewSession world with store }, ?_, untouched⟩
      rw [exec_redeem_of_active valid reads found active]
      exact exec_bind_of_error committed
  · exact .inr ⟨_, _, exec_redeem_of_inactive reads found active, .refl _⟩

theorem redeemed_of_ok {session : LauncherSession}
    (ended : exec (redeem seconds text) world = (.ok session, after)) :
    ∃ key, Redeemed seconds text world key session after := by
  rcases exec_redeem_cases seconds text world with
    ⟨key, given, later, succeeded, redeemed⟩ | ⟨error, later, failed, -⟩
  · cases ended.symm.trans succeeded
    exact ⟨key, redeemed⟩
  · exact nomatch ended.symm.trans failed

/-- A redemption succeeds for active keys only, and only where the store can be read and written. -/
theorem redeem_succeeds_iff :
    (∃ session after, exec (redeem seconds text) world = (.ok session, after)) ↔
      ProductKeyText.isValid text = true ∧ world.faults .findProductKey = none ∧
        (∃ key, world.store.live.findProductKey text = some key ∧ key.status = .active) ∧
        world.faults .saveLauncherSession = none ∧ world.store.disk.refusal? = none := by
  constructor
  · rintro ⟨session, after, ended⟩
    obtain ⟨key, redeemed⟩ := redeemed_of_ok ended
    have reads : world.faults .findProductKey = none := by
      by_contra fails
      obtain ⟨error, fails⟩ := Option.ne_none_iff_exists'.mp fails
      exact nomatch ended.symm.trans (exec_redeem_of_unread redeemed.valid fails)
    refine ⟨redeemed.valid, reads, ⟨key, redeemed.found, redeemed.active⟩, ?_, redeemed.accepts⟩
    by_contra fails
    obtain ⟨error, fails⟩ := Option.ne_none_iff_exists'.mp fails
    obtain ⟨later, denied⟩ := @exec_redeem_of_denies seconds text world key error
      redeemed.valid reads redeemed.found redeemed.active (.inl fails)
    exact nomatch ended.symm.trans denied
  · rintro ⟨valid, reads, ⟨key, found, active⟩, saves, accepts⟩
    obtain ⟨after, ended, -⟩ :=
      @exec_redeem_of_accepts seconds text world key valid reads found active saves accepts
    exact ⟨_, after, ended⟩

end Redeem

section Generate

theorem productKeys_insertProductKeys (document : Document) (edition : EditionId)
    (keys : List ProductKey) :
    (document.insertProductKeys edition keys).productKeys =
      document.productKeys.insertAll (keys.map fun key => (key.id, ⟨edition, key⟩)) := by
  simp [Document.insertProductKeys, Table.insertAll, List.foldl_map]

theorem map_fst_issued (edition : EditionId) (keys : List ProductKey) :
    (keys.map fun key => (key.id, (⟨edition, key⟩ : StoredKey))).map Prod.fst =
      keys.map ProductKey.id := by
  simp

theorem entries_insertProductKeys {document : Document} {edition : EditionId}
    {keys : List ProductKey} (fresh : document.productKeys.Fresh (keys.map ProductKey.id)) :
    (document.insertProductKeys edition keys).productKeys.entries =
      document.productKeys.entries ++ keys.map fun key => (key.id, ⟨edition, key⟩) := by
  rw [← map_fst_issued edition] at fresh
  rw [productKeys_insertProductKeys, Table.entries_insertAll fresh]

variable {edition : EditionId} {count : Nat} {world after : World} {keys : List ProductKey}

structure NewKeys (createdAt : Instant) (count : Nat) (keys : List ProductKey) : Prop where
  length : keys.length = count
  active : ∀ key ∈ keys, key.status = .active
  created : ∀ key ∈ keys, key.createdAt = createdAt
  drawn : ∀ key ∈ keys, ∃ stream, key.key.expose = (ProductKeyText.draw stream).1

theorem exec_drawKeys (createdAt : Instant) (count : Nat) (world : World) :
    ∃ keys symbols identifiers, exec (drawKeys createdAt count) world =
      (.ok keys, { world with symbols, identifiers }) ∧ NewKeys createdAt count keys := by
  induction count generalizing world with
  | zero => exact ⟨[], world.symbols, world.identifiers, rfl, by constructor <;> simp⟩
  | succ count inductionHypothesis =>
      let drew : World := {
        world with
        symbols := (ProductKeyText.draw world.symbols).2
        identifiers := (@Stream.identifier .productKey world.identifiers).2 }
      obtain ⟨keys, symbols, identifiers, ended, new⟩ := inductionHypothesis drew
      refine ⟨⟨world.identifiers.identifier.1, ⟨(ProductKeyText.draw world.symbols).1⟩, .active,
        createdAt⟩ :: keys, symbols, identifiers, ?_, ?_⟩
      · simp only [drawKeys, exec_bind, exec_drawIdentifier, exec_drawSymbols]
        rw [ended]
        rfl
      · refine ⟨by simp [new.length], ?_, ?_, ?_⟩ <;>
          simp only [List.mem_cons, forall_eq_or_imp]
        · exact ⟨trivial, new.active⟩
        · exact ⟨trivial, new.created⟩
        · exact ⟨⟨world.symbols, rfl⟩, new.drawn⟩

structure Issued (edition : EditionId) (count : Nat) (world : World) (keys : List ProductKey)
    (after : World) : Prop where
  positive : 0 < count
  bounded : count ≤ maxKeys
  known : (world.store.live.editions.get? edition).isSome = true
  new : NewKeys world.clock count keys
  accepts : world.store.disk.refusal? = none
  after_eq : ∃ symbols identifiers, after = {
    world with
    symbols
    identifiers
    store := world.store.written (world.store.live.insertProductKeys edition keys) }

theorem exec_generateKeys_of_outside (outside : count = 0 ∨ maxKeys < count) :
    exec (generateKeys edition count) world = (.error .invalidKeyNumber, world) := by
  simp [generateKeys, outside]

theorem exec_generateKeys_of_unknown (inside : ¬(count = 0 ∨ maxKeys < count))
    (reads : world.faults .getEdition = none)
    (unknown : world.store.live.editions.get? edition = none) :
    exec (generateKeys edition count) world = (.error (.invalidEdition edition), world) := by
  simp [generateKeys, inside, exec_bind, Repository.getEdition, Repository.answer,
    World.repository, reads, unknown, Except.mapError]

theorem exec_generateKeys_of_known (inside : ¬(count = 0 ∨ maxKeys < count))
    (reads : world.faults .getEdition = none)
    (known : (world.store.live.editions.get? edition).isSome = true) :
    ∃ keys symbols identifiers, NewKeys world.clock count keys ∧
      exec (generateKeys edition count) world =
        exec (do
            (mutate .saveProductKeys (·.saveProductKeys edition keys)).mapError .ofStore
            return keys)
          { world with symbols, identifiers } := by
  obtain ⟨found, known⟩ := Option.isSome_iff_exists.mp known
  obtain ⟨keys, symbols, identifiers, drew, new⟩ := exec_drawKeys world.clock count world
  refine ⟨keys, symbols, identifiers, new, ?_⟩
  simp [generateKeys, inside, exec_bind, Repository.getEdition, Repository.answer,
    World.repository, reads, known, Except.mapError, drew]

theorem exec_generateKeys_of_denies {error : StoreError}
    (inside : ¬(count = 0 ∨ maxKeys < count)) (reads : world.faults .getEdition = none)
    (known : (world.store.live.editions.get? edition).isSome = true)
    (denies : Denies world .saveProductKeys error) :
    ∃ after, exec (generateKeys edition count) world = (.error (.ofStore error), after) := by
  obtain ⟨keys, symbols, identifiers, -, reduced⟩ :=
    exec_generateKeys_of_known inside reads known
  have deniesToo : Denies { world with symbols, identifiers } .saveProductKeys error := denies
  obtain ⟨store, denied, -⟩ := exec_commit_of_denies (saveProductKeys_commits edition keys)
    LauncherError.ofStore deniesToo rfl
  exact ⟨_, reduced.trans (exec_bind_of_error denied)⟩

theorem exec_generateKeys_of_accepts (inside : ¬(count = 0 ∨ maxKeys < count))
    (reads : world.faults .getEdition = none)
    (known : (world.store.live.editions.get? edition).isSome = true)
    (saves : world.faults .saveProductKeys = none) (accepts : world.store.disk.refusal? = none) :
    ∃ keys after, exec (generateKeys edition count) world = (.ok keys, after) ∧
      Issued edition count world keys after := by
  obtain ⟨keys, symbols, identifiers, new, reduced⟩ :=
    exec_generateKeys_of_known inside reads known
  have committed := exec_commit_of_accepts (saveProductKeys_commits edition keys)
    LauncherError.ofStore { world with symbols, identifiers } saves rfl accepts
  refine ⟨keys, _, reduced.trans (exec_bind_of_ok committed), ?_⟩
  exact ⟨by omega, by omega, known, new, accepts, symbols, identifiers, rfl⟩

theorem exec_generateKeys_cases (edition : EditionId) (count : Nat) (world : World) :
    (∃ keys after, exec (generateKeys edition count) world = (.ok keys, after) ∧
      Issued edition count world keys after) ∨
    ∃ error after, exec (generateKeys edition count) world = (.error error, after) ∧
      world.store.Untouched after.store := by
  by_cases outside : count = 0 ∨ maxKeys < count
  · exact .inr ⟨_, _, exec_generateKeys_of_outside outside, .refl _⟩
  cases reads : world.faults .getEdition with
  | some error =>
      refine .inr ⟨.ofStore error, world, ?_, .refl _⟩
      simp [generateKeys, outside, exec_bind, Repository.getEdition, Repository.answer,
        World.repository, reads, Except.mapError]
  | none =>
  by_cases known : (world.store.live.editions.get? edition).isSome = true
  · obtain ⟨keys, symbols, identifiers, -, reduced⟩ :=
      exec_generateKeys_of_known outside reads known
    rcases exec_commit_cases (saveProductKeys_commits edition keys) .saveProductKeys
        LauncherError.ofStore { world with symbols, identifiers } with
      ⟨_, next, saves, -, accepts, -⟩ | ⟨error, store, committed, untouched⟩
    · exact .inl (exec_generateKeys_of_accepts outside reads known saves accepts)
    · exact .inr ⟨_, _, reduced.trans (exec_bind_of_error committed), untouched⟩
  · have unknown := Option.not_isSome_iff_eq_none.mp known
    exact .inr ⟨_, _, exec_generateKeys_of_unknown outside reads unknown, .refl _⟩

end Generate

section Switch

variable {status : KeyStatus} {edition : EditionId} {id : ProductKeyId} {world after : World}

/-- A key of an edition was given a status, or had it already. -/
structure Switched (status : KeyStatus) (edition : EditionId) (id : ProductKeyId) (world : World)
    (stored : StoredKey) (key : ProductKey) (after : World) : Prop where
  found : world.store.live.productKeys.get? id = some stored
  owned : stored.edition = edition
  key_eq : key = { stored.productKey with status }
  after_eq : stored.productKey.status = status ∧ after = world ∨
    stored.productKey.status ≠ status ∧ world.store.disk.refusal? = none ∧ after = {
      world with
      store := world.store.written {
        world.store.live with
        productKeys := world.store.live.productKeys.insert id { stored with productKey := key } } }

theorem updateProductKeyStatus_commits (id : ProductKeyId) (status : KeyStatus) (store : Store) :
    store.updateProductKeyStatus id status = store.commit (·.updateProductKeyStatus id status) :=
  rfl

theorem exec_setStatus_of_foreign (reads : world.faults .getProductKey = none)
    (foreign : ∀ stored, world.store.live.productKeys.get? id = some stored →
      stored.edition ≠ edition) :
    exec (setStatus status edition id) world =
      (.error (.notFound ("product key " ++ id.toText)), world) := by
  cases found : world.store.live.productKeys.get? id with
  | none =>
      simp [setStatus, exec_bind, Repository.getProductKey, Repository.answer, World.repository,
        reads, found, Except.mapError]
  | some stored =>
      simp [setStatus, exec_bind, Repository.getProductKey, Repository.answer, World.repository,
        reads, found, foreign stored found, Except.mapError]

theorem exec_setStatus_of_unread {error : StoreError}
    (fails : world.faults .getProductKey = some error) :
    exec (setStatus status edition id) world = (.error (.ofStore error), world) := by
  simp [setStatus, exec_bind, Repository.getProductKey, Repository.answer, World.repository,
    fails, Except.mapError]

/-- A key that has the status already is returned as it is, and the disk is left alone. -/
theorem exec_setStatus_of_same {stored : StoredKey} (reads : world.faults .getProductKey = none)
    (found : world.store.live.productKeys.get? id = some stored) (owned : stored.edition = edition)
    (same : stored.productKey.status = status) :
    exec (setStatus status edition id) world = (.ok stored.productKey, world) := by
  simp [setStatus, exec_bind, Repository.getProductKey, Repository.answer, World.repository,
    reads, found, owned, same, Except.mapError]

/-- A key that has the other status comes down to writing the new one. -/
theorem exec_setStatus_of_other {stored : StoredKey} (reads : world.faults .getProductKey = none)
    (found : world.store.live.productKeys.get? id = some stored) (owned : stored.edition = edition)
    (other : stored.productKey.status ≠ status) :
    exec (setStatus status edition id) world =
      exec (do
          (mutate .updateProductKeyStatus (·.updateProductKeyStatus id status)).mapError .ofStore
          return { stored.productKey with status })
        world := by
  simp [setStatus, exec_bind, Repository.getProductKey, Repository.answer, World.repository,
    reads, found, owned, other, Except.mapError]

/-- A switch gives the key its status, or fails and touches nothing. -/
theorem exec_setStatus_cases (status : KeyStatus) (edition : EditionId) (id : ProductKeyId)
    (world : World) :
    (∃ stored key after, exec (setStatus status edition id) world = (.ok key, after) ∧
      Switched status edition id world stored key after) ∨
    ∃ error after, exec (setStatus status edition id) world = (.error error, after) ∧
      world.store.Untouched after.store := by
  cases reads : world.faults .getProductKey with
  | some error => exact .inr ⟨.ofStore error, world, exec_setStatus_of_unread reads, .refl _⟩
  | none =>
  by_cases foreign : ∀ stored, world.store.live.productKeys.get? id = some stored →
      stored.edition ≠ edition
  · exact .inr ⟨_, _, exec_setStatus_of_foreign reads foreign, .refl _⟩
  push Not at foreign
  obtain ⟨stored, found, owned⟩ := foreign
  by_cases same : stored.productKey.status = status
  · refine .inl ⟨stored, stored.productKey, world,
      exec_setStatus_of_same reads found owned same, found, owned, ?_, .inl ⟨same, rfl⟩⟩
    rw [← same]
  have reduced := exec_setStatus_of_other reads found owned same
  rcases exec_commit_cases (updateProductKeyStatus_commits id status) .updateProductKeyStatus
      LauncherError.ofStore world with
    ⟨_, next, saves, changed, accepts, committed⟩ | ⟨error, store, committed, untouched⟩
  · simp only [Document.updateProductKeyStatus, found] at changed
    cases changed
    exact .inl ⟨stored, _, _, reduced.trans (exec_bind_of_ok committed), found, owned, rfl,
      .inr ⟨same, accepts, rfl⟩⟩
  · exact .inr ⟨_, _, reduced.trans (exec_bind_of_error committed), untouched⟩

end Switch

end GameCatalog.Launcher
