import GameCatalog.Proofs.Text.Blank
import GameCatalog.Proofs.Text.Split
import GameCatalog.Proofs.Web.SessionRoundTrip
import GameCatalog.Startup.Run

/-!
Which configurations are accepted.  The settings are sound, and a secret is found that is long
enough; the first thing that is wrong is the one reported.  What is accepted is all that the
gateway needs to be set up.
-/

namespace GameCatalog

theorem DiskEntry.text_encode (text : String) (mode : Nat) :
    (DiskEntry.file ⟨Utf8.encode text, mode⟩).text = .ok text := by
  unfold DiskEntry.text
  dsimp only
  rw [Utf8.decode?_encode]

/-- What must hold of the settings, the secret apart. -/
structure Configuration.Sound (settings : Configuration) : Prop where
  base : ∃ rest, settings.provider.base = "http://" ++ rest ∨
    settings.provider.base = "https://" ++ rest
  clientId : ¬Blank.Blanks settings.provider.clientId.toList
  timeout : settings.provider.timeoutSeconds ≠ 0
  connections : settings.listener.maxConnections ≠ 0
  sessionTime : settings.launcher.sessionSeconds ≠ 0
  sweepTime : settings.launcher.sweepSeconds ≠ 0

/-- Where the secret is found: in the environment, or else in the file that the settings name. -/
inductive Configuration.Resolves (settings : Configuration) (inherited : Option String)
    (files : Files) (secret : String) : Prop where
  | inherited (set : inherited = some secret)
  | file {path text : String} (unset : inherited = none)
      (named : settings.session.secretFile = some path) (read : (files path).text = .ok text)
      (trims : Blank.Trims text.toList secret.toList) (something : secret ≠ "")

inductive Configuration.Violates (settings : Configuration) (inherited : Option String)
    (files : Files) : SettingError → Prop where
  | base (other : ∀ rest, settings.provider.base ≠ "http://" ++ rest ∧
      settings.provider.base ≠ "https://" ++ rest) :
      Violates settings inherited files (.base settings.provider.base)
  | blankClientId (blank : Blank.Blanks settings.provider.clientId.toList) :
      Violates settings inherited files .blankClientId
  | zeroTimeout (zero : settings.provider.timeoutSeconds = 0) :
      Violates settings inherited files .zeroTimeout
  | zeroConnections (zero : settings.listener.maxConnections = 0) :
      Violates settings inherited files .zeroConnections
  | zeroSessionTime (zero : settings.launcher.sessionSeconds = 0) :
      Violates settings inherited files .zeroSessionTime
  | zeroSweepTime (zero : settings.launcher.sweepSeconds = 0) :
      Violates settings inherited files .zeroSweepTime
  | secretFile {path reason : String} (unset : inherited = none)
      (named : settings.session.secretFile = some path)
      (unreadable : (files path).text = .error reason) :
      Violates settings inherited files (.secretFile path reason)
  | noSecret (unset : inherited = none)
      (nothing : ∀ path, settings.session.secretFile = some path →
        ∃ text, (files path).text = .ok text ∧ Blank.Blanks text.toList) :
      Violates settings inherited files .noSecret
  | shortSecret {secret : String} (resolves : settings.Resolves inherited files secret)
      (short : (Utf8.encode secret).length < 32) :
      Violates settings inherited files .shortSecret

def SettingError.rank : SettingError → Nat
  | .base _ => 0
  | .blankClientId => 1
  | .zeroTimeout => 2
  | .zeroConnections => 3
  | .zeroSessionTime => 4
  | .zeroSweepTime => 5
  | .secretFile _ _ | .noSecret | .shortSecret => 6

namespace Configuration

variable {settings : Configuration} {inherited : Option String} {files : Files}
  {error : SettingError} {accepted : AcceptedConfiguration}

theorem isWebAddress_iff {text : String} :
    isWebAddress text = true ↔ ∃ rest, text = "http://" ++ rest ∨ text = "https://" ++ rest := by
  have begins (front : String) : (Split.afterPrefix? front.toList text.toList).isSome = true ↔
      ∃ rest, text = front ++ rest := by
    simp only [Option.isSome_iff_exists, Split.afterPrefix?_eq_some_iff]
    constructor
    · rintro ⟨rest, same⟩
      exact ⟨String.ofList rest, String.toList_inj.mp (by simpa using same)⟩
    · rintro ⟨rest, rfl⟩
      exact ⟨rest.toList, String.toList_append⟩
  rw [isWebAddress, Bool.or_eq_true, begins, begins, exists_or]

theorem trim_isEmpty_iff {text : String} :
    (Blank.trim text).isEmpty = true ↔ Blank.Blanks text.toList := by
  rw [← Blank.trimChars_eq_nil_iff, Blank.trim, String.isEmpty_iff, ← String.toList_inj,
    String.toList_ofList, String.toList_empty]

/-- The error is what is wrong, and nothing that is looked at before it is wrong. -/
def First (settings : Configuration) (inherited : Option String) (files : Files)
    (error : SettingError) : Prop :=
  settings.Violates inherited files error ∧
    ∀ other, settings.Violates inherited files other → error.rank ≤ other.rank

def WrongAt (settings : Configuration) : Nat → Prop
  | 0 => ∀ rest, settings.provider.base ≠ "http://" ++ rest ∧
      settings.provider.base ≠ "https://" ++ rest
  | 1 => Blank.Blanks settings.provider.clientId.toList
  | 2 => settings.provider.timeoutSeconds = 0
  | 3 => settings.listener.maxConnections = 0
  | 4 => settings.launcher.sessionSeconds = 0
  | 5 => settings.launcher.sweepSeconds = 0
  | _ => True

theorem wrongAt_rank (violates : settings.Violates inherited files error) :
    settings.WrongAt error.rank := by
  cases violates with
  | base other => exact other
  | blankClientId blank => exact blank
  | zeroTimeout zero | zeroConnections zero | zeroSessionTime zero | zeroSweepTime zero =>
      exact zero
  | secretFile | noSecret | shortSecret => trivial

theorem wrongAt_base_iff :
    settings.WrongAt 0 ↔ ¬isWebAddress settings.provider.base = true := by
  rw [isWebAddress_iff, not_exists]
  exact forall_congr' fun rest => not_or.symm

theorem first_of_clear (clear : ∀ place < error.rank, ¬settings.WrongAt place)
    (violates : settings.Violates inherited files error) : settings.First inherited files error :=
  ⟨violates, fun _ violatesToo =>
    Nat.le_of_not_lt fun before => clear _ before (wrongAt_rank violatesToo)⟩

theorem fault?_cases (settings : Configuration) (inherited : Option String) (files : Files) :
    (settings.fault? = none ∧ settings.Sound) ∨
      ∃ error, settings.fault? = some error ∧ settings.First inherited files error := by
  unfold fault?
  have clear : ∀ place < 0, ¬settings.WrongAt place := nofun
  by_cases base : settings.WrongAt 0
  · have unfit := Bool.eq_false_iff.mpr (wrongAt_base_iff.mp base)
    exact .inr ⟨_, if_pos (by rw [unfit]; rfl), first_of_clear clear (.base base)⟩
  have web := not_not.mp (mt wrongAt_base_iff.mpr base)
  rw [web, if_neg (by decide)]
  replace clear := Nat.forall_lt_succ_right.mpr ⟨clear, base⟩
  by_cases clientId : Blank.Blanks settings.provider.clientId.toList
  · exact .inr ⟨_, if_pos (trim_isEmpty_iff.mpr clientId),
      first_of_clear clear (.blankClientId clientId)⟩
  rw [if_neg (mt trim_isEmpty_iff.mp clientId)]
  replace clear := Nat.forall_lt_succ_right.mpr ⟨clear, clientId⟩
  by_cases timeout : settings.provider.timeoutSeconds = 0
  · exact .inr ⟨_, if_pos timeout, first_of_clear clear (.zeroTimeout timeout)⟩
  rw [if_neg timeout]
  replace clear := Nat.forall_lt_succ_right.mpr ⟨clear, timeout⟩
  by_cases connections : settings.listener.maxConnections = 0
  · exact .inr ⟨_, if_pos connections, first_of_clear clear (.zeroConnections connections)⟩
  rw [if_neg connections]
  replace clear := Nat.forall_lt_succ_right.mpr ⟨clear, connections⟩
  by_cases sessionTime : settings.launcher.sessionSeconds = 0
  · exact .inr ⟨_, if_pos sessionTime, first_of_clear clear (.zeroSessionTime sessionTime)⟩
  rw [if_neg sessionTime]
  replace clear := Nat.forall_lt_succ_right.mpr ⟨clear, sessionTime⟩
  by_cases sweepTime : settings.launcher.sweepSeconds = 0
  · exact .inr ⟨_, if_pos sweepTime, first_of_clear clear (.zeroSweepTime sweepTime)⟩
  · rw [if_neg sweepTime]
    exact .inl ⟨rfl, isWebAddress_iff.mp web, clientId, timeout, connections, sessionTime,
      sweepTime⟩

section Secret

theorem findSecret_cases (settings : Configuration) (inherited : Option String) (files : Files) :
    (∃ secret, settings.findSecret inherited files = .ok (some secret) ∧
      settings.Resolves inherited files secret) ∨
    (settings.findSecret inherited files = .ok none ∧
      settings.Violates inherited files .noSecret) ∨
    ∃ path reason, settings.findSecret inherited files = .error (.secretFile path reason) ∧
      settings.Violates inherited files (.secretFile path reason) := by
  unfold findSecret
  cases inherited with
  | some secret => exact .inl ⟨secret, rfl, .inherited rfl⟩
  | none =>
  cases named : settings.session.secretFile with
  | none =>
      exact .inr (.inl ⟨rfl, .noSecret rfl fun path other => nomatch named.symm.trans other⟩)
  | some path =>
  dsimp only
  cases read : (files path).text with
  | error reason => exact .inr (.inr ⟨path, reason, rfl, .secretFile rfl named read⟩)
  | ok text =>
  dsimp only
  by_cases blank : Blank.Blanks text.toList
  · rw [if_pos (trim_isEmpty_iff.mpr blank)]
    refine .inr (.inl ⟨rfl, .noSecret rfl fun other same => ?_⟩)
    cases named.symm.trans same
    exact ⟨text, read, blank⟩
  · rw [if_neg (mt trim_isEmpty_iff.mp blank)]
    have trims : Blank.Trims text.toList (Blank.trim text).toList := by
      rw [Blank.trim, String.toList_ofList]
      exact Blank.trims_trimChars text.toList
    have something : Blank.trim text ≠ "" := by
      simpa [String.isEmpty_iff] using mt trim_isEmpty_iff.mp blank
    exact .inl ⟨_, rfl, .file rfl named read trims something⟩

/-- There is one secret at most, and where there is one, it is neither missing nor unreadable. -/
theorem findSecret_of_resolves {secret : String}
    (resolves : settings.Resolves inherited files secret) :
    settings.findSecret inherited files = .ok (some secret) := by
  unfold findSecret
  cases resolves with
  | inherited set => rw [set]
  | @file path text unset named read trims something =>
      rw [unset, named]
      dsimp only
      rw [read]
      dsimp only
      have same : Blank.trim text = secret := by
        rw [Blank.trim, Blank.trims_iff.mp trims, String.ofList_toList]
      rw [same, if_neg (by simpa [String.isEmpty_iff] using something)]

theorem findSecret_of_noSecret (missing : settings.Violates inherited files .noSecret) :
    settings.findSecret inherited files = .ok none := by
  cases missing with
  | noSecret unset nothing =>
      unfold findSecret
      rw [unset]
      cases named : settings.session.secretFile with
      | none => rfl
      | some path =>
          obtain ⟨text, read, blank⟩ := nothing path named
          dsimp only
          rw [read]
          dsimp only
          rw [if_pos (trim_isEmpty_iff.mpr blank)]

theorem findSecret_of_secretFile {path reason : String}
    (unreadable : settings.Violates inherited files (.secretFile path reason)) :
    settings.findSecret inherited files = .error (.secretFile path reason) := by
  cases unreadable with
  | secretFile unset named unreadable =>
      unfold findSecret
      rw [unset, named]
      dsimp only
      rw [unreadable]

end Secret

theorem accept_eq : settings.accept inherited files =
    match settings.fault? with
    | some error => .error error
    | none =>
        match settings.findSecret inherited files with
        | .error error => .error error
        | .ok none => .error .noSecret
        | .ok (some secret) =>
            if Utf8.size secret < Secret.minLength then .error .shortSecret
            else .ok ⟨settings, ⟨secret⟩⟩ := by
  unfold accept
  cases settings.fault? with
  | some error => rfl
  | none =>
      cases settings.findSecret inherited files with
      | error error => rfl
      | ok found =>
          cases found with
          | none => rfl
          | some secret =>
              by_cases short : Utf8.size secret < Secret.minLength
              · simp only [bind, Except.bind, short, if_true]
                rfl
              · simp only [bind, Except.bind, short, if_false]
                rfl

theorem rank_of_sound (sound : settings.Sound)
    (violates : settings.Violates inherited files error) : error.rank = 6 := by
  cases violates with
  | base other =>
      obtain ⟨rest, same⟩ := sound.base
      exact absurd same (not_or.mpr (other rest))
  | blankClientId blank => exact absurd blank sound.clientId
  | zeroTimeout zero => exact absurd zero sound.timeout
  | zeroConnections zero => exact absurd zero sound.connections
  | zeroSessionTime zero => exact absurd zero sound.sessionTime
  | zeroSweepTime zero => exact absurd zero sound.sweepTime
  | secretFile | noSecret | shortSecret => rfl

def secretError : Except SettingError (Option String) → SettingError
  | .error error => error
  | .ok none => .noSecret
  | .ok (some _) => .shortSecret

def errorAt (settings : Configuration) (inherited : Option String) (files : Files) :
    Nat → SettingError
  | 0 => .base settings.provider.base
  | 1 => .blankClientId
  | 2 => .zeroTimeout
  | 3 => .zeroConnections
  | 4 => .zeroSessionTime
  | 5 => .zeroSweepTime
  | _ => secretError (settings.findSecret inherited files)

theorem eq_errorAt (violates : settings.Violates inherited files error) :
    error = settings.errorAt inherited files error.rank := by
  cases violates with
  | base | blankClientId | zeroTimeout | zeroConnections | zeroSessionTime | zeroSweepTime => rfl
  | secretFile unset named unreadable =>
      exact congrArg secretError
        (findSecret_of_secretFile (.secretFile unset named unreadable)).symm
  | noSecret unset nothing =>
      exact congrArg secretError (findSecret_of_noSecret (.noSecret unset nothing)).symm
  | shortSecret resolves short =>
      exact congrArg secretError (findSecret_of_resolves resolves).symm

theorem violates_unique {other : SettingError} (violates : settings.Violates inherited files error)
    (violatesToo : settings.Violates inherited files other) (same : error.rank = other.rank) :
    error = other :=
  calc error
    _ = settings.errorAt inherited files error.rank := eq_errorAt violates
    _ = settings.errorAt inherited files other.rank := congrArg _ same
    _ = other := (eq_errorAt violatesToo).symm

theorem not_violates_of_accepted {secret : String} (sound : settings.Sound)
    (resolves : settings.Resolves inherited files secret)
    (long : 32 ≤ (Utf8.encode secret).length) : ¬settings.Violates inherited files error := by
  intro violates
  have found := findSecret_of_resolves resolves
  have short : error = .shortSecret := by
    rw [eq_errorAt violates, rank_of_sound sound violates]
    exact congrArg secretError found
  subst short
  cases violates with
  | shortSecret other short =>
      cases found.symm.trans (findSecret_of_resolves other)
      exact absurd long (Nat.not_le_of_lt short)

theorem accept_cases (settings : Configuration) (inherited : Option String) (files : Files) :
    (∃ secret, settings.accept inherited files = .ok ⟨settings, ⟨secret⟩⟩ ∧ settings.Sound ∧
      settings.Resolves inherited files secret ∧ 32 ≤ (Utf8.encode secret).length) ∨
    ∃ error, settings.accept inherited files = .error error ∧
      settings.First inherited files error := by
  rw [accept_eq]
  rcases settings.fault?_cases inherited files with ⟨faultless, sound⟩ | ⟨error, faulty, first⟩
  case inr =>
    rw [faulty]
    exact .inr ⟨error, rfl, first⟩
  rw [faultless]
  have first {error : SettingError} (violates : settings.Violates inherited files error) :
      settings.First inherited files error :=
    ⟨violates, fun other violatesToo =>
      ((rank_of_sound sound violates).trans (rank_of_sound sound violatesToo).symm).le⟩
  rcases settings.findSecret_cases inherited files with
    ⟨secret, found, resolves⟩ | ⟨found, missing⟩ | ⟨path, reason, found, unreadable⟩
  · rw [found]
    dsimp only
    by_cases short : Utf8.size secret < Secret.minLength
    · rw [if_pos short]
      exact .inr ⟨_, rfl, first (.shortSecret resolves short)⟩
    · rw [if_neg short]
      exact .inl ⟨secret, rfl, sound, resolves, Nat.le_of_not_lt short⟩
  · rw [found]
    exact .inr ⟨_, rfl, first missing⟩
  · rw [found]
    exact .inr ⟨_, rfl, first unreadable⟩

theorem accept_eq_ok_iff :
    settings.accept inherited files = .ok accepted ↔ accepted.settings = settings ∧
      settings.Sound ∧ settings.Resolves inherited files accepted.secret.expose ∧
      32 ≤ (Utf8.encode accepted.secret.expose).length := by
  rcases settings.accept_cases inherited files with
    ⟨secret, accepts, sound, resolves, long⟩ | ⟨error, fails, first⟩
  · rw [accepts, Except.ok.injEq]
    constructor
    · rintro rfl
      exact ⟨rfl, sound, resolves, long⟩
    · rintro ⟨same, -, resolvesToo, -⟩
      have secrets := (findSecret_of_resolves resolves).symm.trans
        (findSecret_of_resolves resolvesToo)
      obtain ⟨_, ⟨_⟩⟩ := accepted
      cases secrets
      cases same
      rfl
  · rw [fails]
    exact iff_of_false nofun fun ⟨_, sound, resolves, long⟩ =>
      not_violates_of_accepted sound resolves long first.1

theorem accept_eq_error_iff :
    settings.accept inherited files = .error error ↔ settings.First inherited files error := by
  rcases settings.accept_cases inherited files with
    ⟨secret, accepts, sound, resolves, long⟩ | ⟨other, fails, first⟩
  · rw [accepts]
    exact iff_of_false nofun fun ⟨violates, _⟩ =>
      not_violates_of_accepted sound resolves long violates
  · rw [fails, Except.error.injEq]
    constructor
    · rintro rfl
      exact first
    · intro alsoFirst
      have same := Nat.le_antisymm (first.2 error alsoFirst.1) (alsoFirst.2 other first.1)
      exact violates_unique first.1 alsoFirst.1 same

section Load

variable {path text : String}

/-- A text that holds settings is loaded by looking at these, and at the file of the secret. -/
theorem load_eq (read : (files path).text = .ok text) (fits : ofText? text = some settings) :
    load path inherited files = (settings.accept inherited files).mapError .setting := by
  unfold load
  rw [read]
  dsimp only
  rw [fits]

theorem load_eq_ok_iff (inherited : Option String) (accepted : AcceptedConfiguration)
    (read : (files path).text = .ok text) (fits : ofText? text = some settings) :
    load path inherited files = .ok accepted ↔
      settings.accept inherited files = .ok accepted := by
  rw [load_eq read fits]
  cases settings.accept inherited files with
  | ok other => rw [Except.mapError, Except.ok.injEq, Except.ok.injEq]
  | error error => exact iff_of_false nofun nofun

theorem load_eq_error_iff (inherited : Option String) (error : ConfigurationError)
    (read : (files path).text = .ok text) (fits : ofText? text = some settings) :
    load path inherited files = .error error ↔
      ∃ reason, error = .setting reason ∧ settings.accept inherited files = .error reason := by
  rw [load_eq read fits]
  cases settings.accept inherited files with
  | ok other => exact iff_of_false nofun nofun
  | error reason =>
      constructor
      · rintro ⟨⟩
        exact ⟨reason, rfl, rfl⟩
      · rintro ⟨_, rfl, ⟨⟩⟩
        rfl

theorem load_of_inherited {secret : String} {others : Files} (same : others path = files path) :
    load path (some secret) others = load path (some secret) files := by
  have found (settings : Configuration) :
      settings.accept (some secret) others = settings.accept (some secret) files := rfl
  unfold load
  simp only [same, found]

end Load

/--
Everything that runs can be set up from what was accepted: the cookie of the sessions, the gateway
with its services for launchers, and the timer of the sweeps.
-/
structure Suffices {Timer : Type} (timer : Nat → Option Timer) (accepted : AcceptedConfiguration) :
    Prop where
  cookie : ∃ cookie, SessionCookie.ofSecret accepted.secret.expose
    accepted.settings.session.cookieName accepted.settings.session.maxAgeSeconds.toNat
    accepted.settings.session.secure = .ok cookie
  gateway : ∃ gateway, Gateway.ofConfiguration accepted = .ok gateway ∧
    gateway.sessionSeconds = accepted.settings.launcher.sessionSeconds.toNat ∧
    1 ≤ gateway.sessionSeconds ∧
    ∀ (surroundings : Surroundings) (store : Store),
      surroundings.refuses accepted.settings.listener.address = none →
        surroundings.setUp accepted (.ok store) = .ok (gateway, store)
  sweeps : accepted.settings.launcher.sweepSeconds ≠ 0 ∧
    (timer accepted.settings.launcher.sweepSeconds.toNat).isSome = true

theorem suffices_of_sound {Timer : Type} {timer : Nat → Option Timer}
    (sets : ∀ seconds, seconds ≠ 0 → (timer seconds).isSome = true)
    (sound : accepted.settings.Sound)
    (long : 32 ≤ (Utf8.encode accepted.secret.expose).length) : Suffices timer accepted := by
  obtain ⟨cookie, made, -⟩ := @SessionCookie.ofSecret_of_long accepted.secret.expose
    accepted.settings.session.cookieName accepted.settings.session.maxAgeSeconds.toNat
    accepted.settings.session.secure long
  have positive {seconds : UInt64} (some : seconds ≠ 0) : seconds.toNat ≠ 0 := fun zero =>
    some (UInt64.toNat_inj.mp zero)
  refine ⟨⟨cookie, made⟩, ?_, sound.sweepTime, sets _ (positive sound.sweepTime)⟩
  have built : Gateway.ofConfiguration accepted = .ok
      { login := ⟨accepted.settings.provider.base, accepted.settings.provider.clientId⟩
        cookie
        sessionSeconds := accepted.settings.launcher.sessionSeconds.toNat } := by
    unfold Gateway.ofConfiguration
    dsimp only
    rw [made]
    rfl
  refine ⟨_, built, rfl, Nat.one_le_iff_ne_zero.mpr (positive sound.sessionTime), ?_⟩
  intro surroundings store free
  unfold Surroundings.setUp
  dsimp only
  rw [built]
  dsimp only
  rw [free]

/--
A text that holds settings is accepted exactly if these are sound and a secret of at least 32 octets
is found; otherwise the first thing that is wrong is reported.  The file of the secret does not
matter if the environment has one.  What was accepted is all that is needed for setting up
everything that runs, where a timer is refused only if it has no time.
-/
theorem load_accepts {Timer : Type} (timer : Nat → Option Timer)
    (sets : ∀ seconds, seconds ≠ 0 → (timer seconds).isSome = true) {path text : String}
    {settings : Configuration} (inherited : Option String) (files : Files)
    (read : (files path).text = .ok text) (fits : ofText? text = some settings) :
    (∀ accepted, load path inherited files = .ok accepted ↔ accepted.settings = settings ∧
      settings.Sound ∧ settings.Resolves inherited files accepted.secret.expose ∧
      32 ≤ (Utf8.encode accepted.secret.expose).length) ∧
    (∀ error, load path inherited files = .error error ↔
      ∃ reason, error = .setting reason ∧ settings.First inherited files reason) ∧
    (inherited.isSome = true → ∀ others : Files, others path = files path →
      load path inherited others = load path inherited files) ∧
    ∀ accepted, load path inherited files = .ok accepted → Suffices timer accepted := by
  have loads (accepted : AcceptedConfiguration) := load_eq_ok_iff inherited accepted read fits
  refine ⟨fun accepted => (loads accepted).trans accept_eq_ok_iff, ?_, ?_, ?_⟩
  · intro error
    simp only [load_eq_error_iff inherited error read fits, accept_eq_error_iff]
  · intro inheritedSome others same
    obtain ⟨secret, rfl⟩ := Option.isSome_iff_exists.mp inheritedSome
    exact load_of_inherited same
  · intro accepted loaded
    obtain ⟨rfl, sound, -, long⟩ := accept_eq_ok_iff.mp ((loads accepted).mp loaded)
    exact suffices_of_sound sets sound long

/--
A secret is taken from its file without the line break, but not while the environment has one, be
it empty.
-/
theorem load_accepts_trimmed :
    let text := "[server]\nlisten_addr = \"127.0.0.1:8080\"\n\n[identity_provider]\n" ++
      "base_url = \"https://idp.example/api/v3\"\nclient_id = \"catalog\"\n\n" ++
      "[session]\nsecret_file = \"secret\"\n\n[store]\npath = \"store.json\"\n"
    let files : Files := fun path => .file ⟨Utf8.encode
      (if path = "secret" then "0123456789abcdef0123456789abcdef\n" else text), 0o600⟩
    let settings : Configuration :=
      { listener := ⟨.ipv4 ⟨0x7F000001⟩ 8080, 1000⟩
        provider := ⟨"https://idp.example/api/v3", "catalog", 10⟩
        session := ⟨"collection_session", 604800, true, some "secret"⟩
        launcher := ⟨86400, 3600⟩
        storePath := "store.json" }
    load "gateway.toml" none files =
        .ok ⟨settings, ⟨"0123456789abcdef0123456789abcdef"⟩⟩ ∧
      load "gateway.toml" (some "") files = .error (.setting .shortSecret) := by
  intro text files settings
  have read : (files "gateway.toml").text = .ok text :=
    (DiskEntry.text_encode _ _).trans (congrArg _ (if_neg (by decide)))
  have fits : ofText? text = some settings := by decide +kernel
  have sets (seconds : Nat) (some : seconds ≠ 0) :
      (if seconds = 0 then none else Option.some seconds).isSome = true := by
    rw [if_neg some]
    rfl
  have sound : settings.Sound :=
    { base := ⟨"idp.example/api/v3", .inr (by decide)⟩
      clientId := fun blank => Bool.false_ne_true (blank 'c' (by decide))
      timeout := by decide
      connections := by decide
      sessionTime := by decide
      sweepTime := by decide }
  constructor
  · have trims : Blank.Trims "0123456789abcdef0123456789abcdef\n".toList
        "0123456789abcdef0123456789abcdef".toList := Blank.trims_iff.mpr (by decide +kernel)
    have secret : (files "secret").text = .ok "0123456789abcdef0123456789abcdef\n" :=
      (DiskEntry.text_encode _ _).trans (congrArg _ (if_pos rfl))
    have resolves : settings.Resolves none files "0123456789abcdef0123456789abcdef" :=
      .file rfl rfl secret trims (by decide)
    exact ((load_accepts _ sets none files read fits).1 _).mpr
      ⟨rfl, sound, resolves, by decide +kernel⟩
  · have short : settings.Violates (some "") files .shortSecret :=
      .shortSecret (.inherited rfl) (by decide)
    refine ((load_accepts _ sets (some "") files read fits).2.1 _).mpr ⟨_, rfl, short, ?_⟩
    intro other violates
    exact (rank_of_sound sound violates).ge

end Configuration

end GameCatalog
