import GameCatalog.Proofs.Launcher.Inventory

/-!
Issuing product keys.  Either all keys that are asked for are issued, or none is: then the store
is as it was, and so is what can be redeemed.  What was issued is found by its identifier, in the
list of its edition and by its text.
-/

namespace GameCatalog.Launcher

open Job

variable {edition : EditionId} {count : Nat} {world after : World} {keys : List ProductKey}

theorem issued_of_ok (ended : (exec (generateKeys edition count) world).1 = .ok keys) :
    Issued edition count world keys (exec (generateKeys edition count) world).2 := by
  rcases exec_generateKeys_cases edition count world with
    ⟨drawn, after, succeeded, issued⟩ | ⟨error, after, failed, -⟩
  · rw [succeeded] at ended ⊢
    cases ended
    exact issued
  · rw [failed] at ended
    exact nomatch ended

theorem untouched_of_error {error : LauncherError}
    (ended : (exec (generateKeys edition count) world).1 = .error error) :
    world.store.Untouched (exec (generateKeys edition count) world).2.store := by
  rcases exec_generateKeys_cases edition count world with
    ⟨drawn, after, succeeded, -⟩ | ⟨_, after, failed, untouched⟩
  · rw [succeeded] at ended
    exact nomatch ended
  · rw [failed]
    exact untouched

theorem redeem_succeeds_of_untouched (untouched : world.store.Untouched after.store)
    (circumstances : Circumstances) (seconds : Nat) (text : String) :
    (∃ session later, exec (redeem seconds text) (after.under circumstances) =
      (.ok session, later)) ↔
    ∃ session later, exec (redeem seconds text) (world.under circumstances) =
      (.ok session, later) := by
  have sameRefusal : (after.under circumstances).store.disk.refusal? =
      (world.under circumstances).store.disk.refusal? := by
    obtain ⟨leftover, same⟩ := untouched
    unfold World.under
    rw [same]
    rfl
  rw [redeem_succeeds_iff, redeem_succeeds_iff, sameRefusal]
  simp only [World.under_live, World.under_faults, untouched.live]

/-- The texts of the keys differ from each other and from those that are stored. -/
def NewTexts (document : Document) (keys : List ProductKey) : Prop :=
  (keys.map (·.key.expose)).Nodup ∧ ∀ key ∈ keys, ∀ stored ∈ document.productKeys.values,
    stored.productKey.key.expose ≠ key.key.expose

section Issued

variable (issued : Issued edition count world keys after)
include issued

theorem live_of_issued :
    after.store.live = world.store.live.insertProductKeys edition keys := by
  obtain ⟨symbols, identifiers, after_eq⟩ := issued.after_eq
  rw [after_eq]
  rfl

theorem isValid_of_issued {key : ProductKey} (membership : key ∈ keys) :
    ProductKeyText.isValid key.key.expose = true := by
  obtain ⟨stream, drawn⟩ := issued.new.drawn key membership
  rw [drawn]
  exact ProductKeyText.isValid_draw stream

theorem listKeys_of_issued {circumstances : Circumstances}
    (fresh : world.store.live.productKeys.Fresh (keys.map ProductKey.id))
    (reads : circumstances.faults .getEdition = none)
    (lists : circumstances.faults .listProductKeys = none) (status : Option KeyStatus) :
    ∃ listed, (exec (listKeys edition status) (world.under circumstances)).1 = .ok listed ∧
      (exec (listKeys edition status) (after.under circumstances)).1 = .ok (listed.merge
        ((keys.filter fun key => status.all (· = key.status)).mergeSort Document.inOrder)
        Document.inOrder) := by
  have live : (after.under circumstances).store.live =
      world.store.live.insertProductKeys edition keys := by
    rw [World.under_live]
    exact live_of_issued issued
  have known : ((after.under circumstances).store.live.editions.get? edition).isSome = true := by
    rw [live]
    exact issued.known
  refine ⟨_, exec_listKeys_of_works reads lists issued.known, ?_⟩
  rw [exec_listKeys_of_works reads lists known, live,
    Document.listProductKeys_insertProductKeys fresh]
  simp only [contains_shown]
  rfl

theorem sorted_of_issued {circumstances : Circumstances}
    (fresh : world.store.live.productKeys.Fresh (keys.map ProductKey.id))
    (keyed : world.store.live.productKeys.Keyed (·.productKey.id))
    (reads : circumstances.faults .getEdition = none)
    (lists : circumstances.faults .listProductKeys = none) (status : Option KeyStatus)
    {arranged : Table ProductKeyId StoredKey}
    (rearranged : arranged.entries.Perm after.store.live.productKeys.entries) :
    ∃ listed merged,
      (exec (listKeys edition status) (world.under circumstances)).1 = .ok listed ∧
      (exec (listKeys edition status) {
        after.under circumstances with
        store.live := { after.store.live with productKeys := arranged } }).1 = .ok merged ∧
      merged.Perm (listed ++ keys.filter fun key => status.all (· = key.status)) ∧
      merged.Pairwise Document.Precedes := by
  have keyedToo : after.store.live.productKeys.Keyed (·.productKey.id) := by
    rw [live_of_issued issued]
    exact Document.keyed_insertProductKeys keyed edition keys
  have known : (after.store.live.editions.get? edition).isSome = true := by
    rw [live_of_issued issued]
    exact issued.known
  obtain ⟨listed, before, later⟩ := listKeys_of_issued issued fresh reads lists status
  have shownNow := @exec_listKeys_of_works edition status (after.under circumstances) reads lists
    known
  have same := Document.listProductKeys_of_perm keyedToo rearranged edition (shown status)
  refine ⟨listed, after.store.live.listProductKeys edition (shown status), before, ?_, ?_, ?_⟩
  · rw [← same]
    exact exec_listKeys_of_works reads lists known
  · have merged := Except.ok.inj (shownNow.symm.trans later)
    rw [World.under_live] at merged
    rw [merged]
    exact (List.merge_perm_append _).trans ((List.mergeSort_perm _ _).append_left _)
  · exact Document.pairwise_listProductKeys keyedToo edition _

theorem listKeys_of_issued_elsewhere {other : EditionId} (different : other ≠ edition)
    (fresh : world.store.live.productKeys.Fresh (keys.map ProductKey.id))
    (circumstances : Circumstances) (status : Option KeyStatus) :
    (exec (listKeys other status) (after.under circumstances)).1 =
      (exec (listKeys other status) (world.under circumstances)).1 := by
  apply listKeys_congr
  · rfl
  · rw [World.under_live, live_of_issued issued]
    rfl
  · rw [World.under_live, live_of_issued issued]
    exact Document.listProductKeys_insertProductKeys_of_ne different fresh _

theorem redeems_of_issued
    (fresh : world.store.live.productKeys.Fresh (keys.map ProductKey.id))
    (newTexts : NewTexts world.store.live keys) {key : ProductKey} (membership : key ∈ keys) :
    Redeems after key .active := by
  have stands := @stands_of_inserted edition key _ keys fresh newTexts.1 newTexts.2
    (isValid_of_issued issued membership) membership
  rw [issued.new.active key membership, ← productKeys_insertProductKeys,
    ← live_of_issued issued] at stands
  exact redeems_of_stands stands

end Issued

/--
Issuing product keys is all or nothing, whatever the store, the clock and the random sources are
and whatever becomes of the write.  The number of keys is checked first, then the edition, and
then the keys are written; a failure leaves the store as it was, and nothing can be redeemed that
could not be before.  Otherwise exactly as many keys are returned as were asked for, active, of
this instant and well written.  If their identifiers are new, then they are put behind the other
keys and nothing else changes: the list of their edition takes them in, other lists stay; and if
their texts are new too, each of them can be redeemed for a session of its own.  Where keys stand
under their own identifiers, the list is in the strict order of times and identifiers, in whatever
order the table is.
-/
theorem generateKeys_exact (edition : EditionId) (count : Nat) (world : World) :
    let outcome := exec (generateKeys edition count) world
    let old := world.store.live
    let new := outcome.2.store.live
    (count = 0 ∨ 1000 < count → outcome = (.error .invalidKeyNumber, world)) ∧
    (1 ≤ count → count ≤ 1000 → world.faults .getEdition = none →
      (old.editions.get? edition = none → outcome = (.error (.invalidEdition edition), world)) ∧
      ((old.editions.get? edition).isSome = true →
        (∀ error, Denies world .saveProductKeys error → outcome.1 = .error (.ofStore error) ∧
          ((∀ what, error ≠ .notFound what) → outcome.1 = .error (.store error.message))) ∧
        (world.faults .saveProductKeys = none → world.store.disk.refusal? = none →
          ∃ keys, outcome.1 = .ok keys))) ∧
    (∀ error, outcome.1 = .error error → world.store.Untouched outcome.2.store ∧
      ∀ circumstances seconds text,
        (∃ session later, exec (redeem seconds text) (outcome.2.under circumstances) =
          (.ok session, later)) ↔
        ∃ session later, exec (redeem seconds text) (world.under circumstances) =
          (.ok session, later)) ∧
    ∀ keys, outcome.1 = .ok keys →
      keys.length = count ∧
      (∀ key ∈ keys, key.status = .active ∧ key.createdAt = world.clock ∧
        ProductKeyText.isValid key.key.expose = true) ∧
      (old.productKeys.Fresh (keys.map ProductKey.id) →
        outcome.2.store = world.store.written new ∧
        new = { old with productKeys := new.productKeys } ∧
        new.productKeys.entries =
          old.productKeys.entries ++ keys.map (fun key => (key.id, ⟨edition, key⟩)) ∧
        (∀ status circumstances, circumstances.faults .getEdition = none →
          circumstances.faults .listProductKeys = none →
          ∃ listed, (exec (listKeys edition status) (world.under circumstances)).1 = .ok listed ∧
            (exec (listKeys edition status) (outcome.2.under circumstances)).1 =
              .ok (listed.merge
                ((keys.filter fun key => status.all (· = key.status)).mergeSort Document.inOrder)
                Document.inOrder)) ∧
        (old.productKeys.Keyed (·.productKey.id) →
          ∀ status circumstances, circumstances.faults .getEdition = none →
          circumstances.faults .listProductKeys = none →
          ∀ arranged : Table ProductKeyId StoredKey,
            arranged.entries.Perm new.productKeys.entries →
          ∃ listed merged,
            (exec (listKeys edition status) (world.under circumstances)).1 = .ok listed ∧
            (exec (listKeys edition status) {
              outcome.2.under circumstances with
              store.live := { new with productKeys := arranged } }).1 = .ok merged ∧
            merged.Perm (listed ++ keys.filter fun key => status.all (· = key.status)) ∧
            merged.Pairwise Document.Precedes) ∧
        (∀ other status circumstances, other ≠ edition →
          (exec (listKeys other status) (outcome.2.under circumstances)).1 =
            (exec (listKeys other status) (world.under circumstances)).1) ∧
        (NewTexts old keys → ∀ key ∈ keys, Redeems outcome.2 key .active)) := by
  intro outcome old new
  refine ⟨?_, ?_, ?_, ?_⟩
  · intro outside
    exact exec_generateKeys_of_outside outside
  · intro positive bounded reads
    have inside : ¬(count = 0 ∨ maxKeys < count) := by
      unfold maxKeys
      omega
    refine ⟨exec_generateKeys_of_unknown inside reads, fun known => ⟨?_, ?_⟩⟩
    · intro error denies
      obtain ⟨after, denied⟩ := exec_generateKeys_of_denies inside reads known denies
      have failed : outcome.1 = .error (.ofStore error) := congrArg Prod.fst denied
      refine ⟨failed, fun present => failed.trans ?_⟩
      cases error with
      | notFound what => exact absurd rfl (present what)
      | _ => rfl
    · intro saves accepts
      obtain ⟨keys, after, ended, -⟩ :=
        exec_generateKeys_of_accepts inside reads known saves accepts
      exact ⟨keys, congrArg Prod.fst ended⟩
  · intro error failed
    have untouched := untouched_of_error failed
    exact ⟨untouched, redeem_succeeds_of_untouched untouched⟩
  · intro keys ended
    have issued : Issued edition count world keys outcome.2 := issued_of_ok ended
    refine ⟨issued.new.length, ?_, fun fresh => ⟨?_, ?_, ?_, ?_, ?_, ?_, ?_⟩⟩
    · intro key membership
      exact ⟨issued.new.active key membership, issued.new.created key membership,
        isValid_of_issued issued membership⟩
    · obtain ⟨symbols, identifiers, after_eq⟩ := issued.after_eq
      simp only [new]
      rw [after_eq]
      rfl
    · simp only [new]
      rw [live_of_issued issued]
      rfl
    · simp only [new]
      rw [live_of_issued issued]
      exact entries_insertProductKeys fresh
    · intro status circumstances reads lists
      exact listKeys_of_issued issued fresh reads lists status
    · intro keyed status circumstances reads lists arranged rearranged
      exact sorted_of_issued issued fresh keyed reads lists status rearranged
    · intro other status circumstances different
      exact listKeys_of_issued_elsewhere issued different fresh circumstances status
    · intro newTexts key membership
      exact redeems_of_issued issued fresh newTexts membership

/-- One key is issued for an empty edition: the list shows it, and it can be redeemed. -/
theorem generateKeys_exact_stocked :
    let calm : Circumstances := ⟨0, 0, Faults.none, stocked.provider, none⟩
    let outcome := exec (generateKeys ⟨1⟩ 1) stocked
    outcome.1 = .ok [zeros] ∧
      (exec (listKeys ⟨1⟩ none) (outcome.2.under calm)).1 = .ok [zeros] ∧
      Redeems outcome.2 zeros .active ∧
      exec (generateKeys ⟨2⟩ 1) stocked = (.error (.invalidEdition ⟨2⟩), stocked) ∧
      exec (generateKeys ⟨2⟩ 0) stocked = (.error .invalidKeyNumber, stocked) := by
  intro calm outcome
  have issued : outcome.1 = .ok [zeros] := by decide +kernel
  obtain ⟨-, -, precise⟩ := (generateKeys_exact ⟨1⟩ 1 stocked).2.2.2 [zeros] issued
  obtain ⟨-, -, -, lists, -, -, redeems⟩ := precise (by decide)
  obtain ⟨listed, before, later⟩ := lists none calm rfl rfl
  have empty : (exec (listKeys ⟨1⟩ none) (stocked.under calm)).1 = .ok [] :=
    (exec_listKeys_of_works rfl rfl rfl).trans (congrArg Except.ok List.mergeSort_nil)
  cases empty.symm.trans before
  refine ⟨issued, later.trans (by simp), ?_, ?_, ?_⟩
  · exact redeems ⟨by decide, nofun⟩ zeros (by simp)
  · exact ((generateKeys_exact ⟨2⟩ 1 stocked).2.1 (by decide) (by decide) rfl).1 rfl
  · exact (generateKeys_exact ⟨2⟩ 0 stocked).1 (.inl rfl)

end GameCatalog.Launcher
