import GameCatalog.Proofs.Access.Policy
import GameCatalog.Proofs.Launcher.Format
import GameCatalog.Proofs.Store.Table
import GameCatalog.Proofs.Text.Split

/-!
The policy for launchers.  A launcher shows the token of a session in the authorization header.
It is turned away unless the header has its form, the token is one, and a stored session with that
token leads through its key to an edition and is not over.  The launcher may then do what its
scheme allows with that edition.  The check of access decides by this policy and by nothing else;
the session of the browser has no part in it.
-/

namespace GameCatalog

def Scheme.forLaunchers : List Scheme :=
  [.launcher, .launcherEdition, .launcherGame, .launcherFile]

theorem Scheme.mem_forLaunchers_iff {scheme : Scheme} :
    scheme ∈ forLaunchers ↔ scheme = .launcher ∨ scheme = .launcherEdition ∨
      scheme = .launcherGame ∨ scheme = .launcherFile := by
  simp [forLaunchers]

namespace Access

def WellFormed (token : String) : Prop :=
  token.toList.length = 64 ∧ ∀ character ∈ token.toList, character.isAlphanum = true

def Opens (document : Document) (token : String) (session : LauncherSession)
    (edition : Edition) : Prop :=
  ∃ stored ∈ document.launcherSessions.values, ∃ key,
    stored.session = session ∧ session.accessToken.expose = token ∧
    document.productKeys.get? stored.productKey = some key ∧
    document.editions.get? key.edition = some edition

/-- Why a launcher is turned away, by the header that it shows. -/
inductive TurnedAway (document : Document) (now : Instant) : Option String → Denial → Prop where
  | noHeader : TurnedAway document now none (.unauthenticated "no access token")
  | otherHeader {header : String} (other : ∀ token, header ≠ "Bearer " ++ token) :
      TurnedAway document now (some header) (.invalidRequest "invalid authorization header")
  | illFormed {token : String} (illFormed : ¬WellFormed token) :
      TurnedAway document now (some ("Bearer " ++ token)) (.unauthenticated "invalid access token")
  | unknown {token : String} (unknown : ∀ session edition, ¬Opens document token session edition) :
      TurnedAway document now (some ("Bearer " ++ token)) (.unauthenticated "invalid access token")
  | expired {token : String} {session : LauncherSession} {edition : Edition}
      (wellFormed : WellFormed token) (opens : Opens document token session edition)
      (elapsed : session.expiresAt ≤ now) :
      TurnedAway document now (some ("Bearer " ++ token)) (.unauthenticated "expired access token")

/-- The header shows the token of a session that leads to the edition and is not over. -/
def Shows (document : Document) (now : Instant) (authorization : Option String)
    (edition : Edition) : Prop :=
  ∃ token session, authorization = some ("Bearer " ++ token) ∧ WellFormed token ∧
    Opens document token session edition ∧ now < session.expiresAt

def LauncherMay (document : Document) (parameters : List (String × String)) (edition : Edition) :
    Scheme → Prop
  | .launcher => True
  | .launcherEdition => Names parameters "editionID" edition.id
  | .launcherGame => ∃ game, Names parameters "gameID" game ∧ game ∈ edition.gameIds
  | .launcherFile => ∃ file, Names parameters "gameFileID" file ∧
      ∃ id ∈ edition.gameIds, ∃ game, document.games.get? id = some game ∧
        ∃ found ∈ game.files, found.id = file
  | _ => False

def LauncherPolicy (document : Document) (authorization : Option String)
    (parameters : List (String × String)) (now : Instant) (scheme : Scheme) :
    Except CheckError Verdict → Prop :=
  Ruling (TurnedAway document now authorization) (Shows document now authorization)
    (fun edition => LauncherMay document parameters edition scheme) Grant.launcher parameters
    scheme

/-- No two sessions have the same token. -/
def DistinctTokens (document : Document) : Prop :=
  (document.launcherSessions.values.map fun stored => stored.session.accessToken.expose).Nodup

variable {repository : Repository} {credentials : Credentials} {now : Instant} {scheme : Scheme}
  {document : Document} {token : String} {session : LauncherSession} {edition : Edition}

section Session

theorem opens_of_found {access : LauncherAccess}
    (found : document.findLauncherSession token = some access) :
    Opens document token access.session access.edition := by
  simp only [Document.findLauncherSession, bind, Option.bind_eq_some_iff] at found
  obtain ⟨stored, searched, key, keyThere, record, editionThere, joined⟩ := found
  obtain ⟨there, sameToken⟩ := Table.search_eq_some searched
  cases joined
  exact ⟨stored, Table.mem_values_iff.mpr there, key, rfl, of_decide_eq_true sameToken, keyThere,
    editionThere⟩

theorem found_of_opens (distinct : DistinctTokens document)
    (opens : Opens document token session edition) :
    ∃ access, document.findLauncherSession token = some access ∧ access.session = session ∧
      access.edition = edition := by
  obtain ⟨stored, membership, key, rfl, rfl, keyThere, editionThere⟩ := opens
  obtain ⟨id, there⟩ := Table.mem_values_iff.mp membership
  have searched : (document.launcherSessions.search fun other =>
      other.session.accessToken.expose = stored.session.accessToken.expose) = some stored := by
    apply Table.search_eq_some_of_unique there (decide_eq_true rfl)
    intro other otherMembership sameToken
    exact List.inj_on_of_nodup_map distinct otherMembership membership
      (of_decide_eq_true sameToken)
  refine ⟨⟨stored.session, key.productKey, edition⟩, ?_, rfl, rfl⟩
  simp only [Document.findLauncherSession, searched, bind, Option.bind, keyThere, editionThere]
  rfl

theorem afterBearer_iff {header : String} {characters : List Char} :
    Split.afterPrefix? bearer header.toList = some characters ↔
      header = "Bearer " ++ String.ofList characters := by
  have spelled : ("Bearer " ++ String.ofList characters).toList = bearer ++ characters := by
    rw [String.toList_append, @String.toList_ofList characters]
    rfl
  rw [Split.afterPrefix?_eq_some_iff, ← String.toList_inj, spelled]

theorem bears_iff_shows (distinct : DistinctTokens document) {authorization : Option String} :
    Bears document authorization now edition ↔ Shows document now authorization edition := by
  have inTime (session : LauncherSession) :
      session.isExpiredAt now = false ↔ now < session.expiresAt := by
    unfold LauncherSession.isExpiredAt
    rw [decide_eq_false_iff_not, UInt64.not_le]
  unfold Bears Shows
  simp only [afterBearer_iff, AccessToken.isValid_iff, inTime]
  constructor
  · rintro ⟨_, characters, access, shown, rfl, wellFormed, found, good, rfl⟩
    exact ⟨_, _, shown, wellFormed, opens_of_found found, good⟩
  · rintro ⟨token, session, shown, wellFormed, opens, good⟩
    obtain ⟨access, found, rfl, rfl⟩ := found_of_opens distinct opens
    refine ⟨_, token.toList, access, shown, ?_, ?_, ?_, good, rfl⟩
    · rw [String.ofList_toList]
    · rwa [String.ofList_toList]
    · rwa [String.ofList_toList]

theorem turnedAway_or_shows (document : Document) (now : Instant) (authorization : Option String) :
    (∃ denial, TurnedAway document now authorization denial) ∨
      ∃ edition, Shows document now authorization edition := by
  cases authorization with
  | none => exact .inl ⟨_, .noHeader⟩
  | some header =>
      by_cases other : ∀ token, header ≠ "Bearer " ++ token
      · exact .inl ⟨_, .otherHeader other⟩
      push Not at other
      obtain ⟨token, rfl⟩ := other
      by_cases wellFormed : WellFormed token
      · by_cases unknown : ∀ session edition, ¬Opens document token session edition
        · exact .inl ⟨_, .unknown unknown⟩
        push Not at unknown
        obtain ⟨session, edition, opens⟩ := unknown
        by_cases elapsed : session.expiresAt ≤ now
        · exact .inl ⟨_, .expired wellFormed opens elapsed⟩
        · exact .inr ⟨edition, token, session, rfl, wellFormed, opens, UInt64.not_le.mp elapsed⟩
      · exact .inl ⟨_, .illFormed wellFormed⟩

end Session

theorem launcher_of_bearer (shown : credentials.authorization = some ("Bearer " ++ token)) :
    launcher repository credentials now =
      if AccessToken.isValid token then
        match repository.validateSession token now with
        | .ok access => .ok access.edition
        | .error .invalidToken => deny (.unauthenticated "invalid access token")
        | .error .expired => deny (.unauthenticated "expired access token")
        | .error error => .error (.failed (.lookup error.message))
      else deny (.unauthenticated "invalid access token") := by
  have cut : Split.afterPrefix? bearer ("Bearer " ++ token).toList = some token.toList := by
    rw [afterBearer_iff, String.ofList_toList]
  unfold launcher
  simp only [shown, cut, String.ofList_toList]
  cases AccessToken.isValid token <;> rfl

theorem launcher_of_illFormed (illFormed : ¬WellFormed token)
    (shown : credentials.authorization = some ("Bearer " ++ token)) :
    launcher repository credentials now = deny (.unauthenticated "invalid access token") := by
  have invalid : ¬AccessToken.isValid token = true := mt AccessToken.isValid_iff.mp illFormed
  rw [launcher_of_bearer shown, if_neg invalid]

section Works

variable (works : ∀ operation, repository.faults operation = none)
include works

theorem launcher_of_wellFormed (wellFormed : WellFormed token)
    (shown : credentials.authorization = some ("Bearer " ++ token)) :
    launcher repository credentials now =
      match repository.document.findLauncherSession token with
      | none => deny (.unauthenticated "invalid access token")
      | some access =>
          if access.session.isExpiredAt now then deny (.unauthenticated "expired access token")
          else .ok access.edition := by
  have answered : repository.findLauncherSession token =
      .ok (repository.document.findLauncherSession token) :=
    answer_of_works works .findLauncherSession _
  rw [launcher_of_bearer shown, if_pos (AccessToken.isValid_iff.mpr wellFormed)]
  unfold Repository.validateSession
  rw [answered]
  cases repository.document.findLauncherSession token with
  | none => rfl
  | some access => cases expired : access.session.isExpiredAt now <;> simp [expired]

theorem launcher_of_turnedAway (distinct : DistinctTokens repository.document) {denial : Denial}
    (turned : TurnedAway repository.document now credentials.authorization denial) :
    launcher repository credentials now = deny denial := by
  generalize shown : credentials.authorization = authorization at turned
  cases turned with
  | noHeader =>
      unfold launcher
      rw [shown]
      rfl
  | @otherHeader header other =>
      have uncut : Split.afterPrefix? bearer header.toList = none := by
        rw [Option.eq_none_iff_forall_ne_some]
        intro characters cut
        exact other _ (afterBearer_iff.mp cut)
      unfold launcher
      simp only [shown, uncut]
  | illFormed illFormed => exact launcher_of_illFormed illFormed shown
  | @unknown token unknown =>
      by_cases wellFormed : WellFormed token
      · have missing : repository.document.findLauncherSession token = none := by
          rw [Option.eq_none_iff_forall_ne_some]
          intro access found
          exact unknown _ _ (opens_of_found found)
        rw [launcher_of_wellFormed works wellFormed shown, missing]
      · exact launcher_of_illFormed wellFormed shown
  | expired wellFormed opens elapsed =>
      obtain ⟨access, found, rfl, rfl⟩ := found_of_opens distinct opens
      have expired : access.session.isExpiredAt now = true := decide_eq_true elapsed
      rw [launcher_of_wellFormed works wellFormed shown, found]
      simp only [expired, if_true]

theorem hasFile_iff {file : GameFileId} {ids : List GameId} {found : Bool}
    (searched : hasFile repository file ids = .ok found) :
    found = true ↔ ∃ id ∈ ids, ∃ game,
      repository.document.games.get? id = some game ∧ ∃ other ∈ game.files, other.id = file := by
  induction ids with
  | nil =>
      cases searched
      simp
  | cons id ids inductionHypothesis =>
      simp only [hasFile, getGame_of_works works, bind, Except.bind] at searched
      rw [List.exists_mem_cons_iff]
      cases there : repository.document.games.get? id with
      | none =>
          rw [there] at searched
          simp [inductionHypothesis searched]
      | some game =>
          rw [there] at searched
          dsimp only at searched
          split at searched
          · rename_i inFiles
            cases searched
            have present : ∃ other ∈ game.files, other.id = file := by simpa using inFiles
            simp [present]
          · rename_i notInFiles
            have absent : ¬∃ other ∈ game.files, other.id = file := by
              simpa using notInFiles
            simp [inductionHypothesis searched, absent]

theorem decide_of_launcher (asked : scheme ∈ Scheme.forLaunchers)
    (known : launcher repository credentials now = .ok edition)
    (named : Named credentials.parameters scheme) :
    (LauncherMay repository.document credentials.parameters edition scheme →
      decide scheme repository credentials now = .ok (.launcher edition)) ∧
    (¬LauncherMay repository.document credentials.parameters edition scheme →
      decide scheme repository credentials now = deny (.forbidden scheme.refusal)) := by
  rcases Scheme.mem_forLaunchers_iff.mp asked with rfl | rfl | rfl | rfl
  · refine ⟨fun _ => ?_, fun mayNot => absurd trivial mayNot⟩
    rw [decide, known]
    rfl
  · obtain ⟨wanted, named⟩ := named .edition "editionID" rfl
    have same : LauncherMay repository.document credentials.parameters edition .launcherEdition ↔
        edition.id = wanted := by
      constructor
      · exact fun names => names_unique names named
      · rintro rfl
        exact named
    apply decides_of_ite same
    unfold decide launcherEdition
    rw [known, pathId_of_names named]
    rfl
  · obtain ⟨game, named⟩ := named .game "gameID" rfl
    apply decides_of_ite (exists_names_iff named)
    unfold decide launcherGame
    rw [known, pathId_of_names named]
    rfl
  · obtain ⟨file, named⟩ := named .gameFile "gameFileID" rfl
    obtain ⟨found, searched⟩ := hasFile_of_works works file edition.gameIds
    apply decides_of_ite ((exists_names_iff named).trans (hasFile_iff works searched).symm)
    unfold decide launcherFile
    rw [known, pathId_of_names named]
    simp only [bind, Except.bind, searched, lookUp]
    rfl

end Works

theorem admitted_of_bears (asked : scheme ∈ Scheme.forLaunchers)
    (bears : Bears document credentials.authorization now edition) :
    Admitted scheme document credentials now := by
  rcases Scheme.mem_forLaunchers_iff.mp asked with rfl | rfl | rfl | rfl <;> exact ⟨edition, bears⟩

theorem decide_of_stopped (asked : scheme ∈ Scheme.forLaunchers) {stop : Stop}
    (stopped : launcher repository credentials now = .error stop) :
    decide scheme repository credentials now = .error stop := by
  rcases Scheme.mem_forLaunchers_iff.mp asked with rfl | rfl | rfl | rfl
  · rw [decide, stopped]
    rfl
  · exact bind_eq_error stopped
  · exact bind_eq_error stopped
  · exact bind_eq_error stopped

theorem staged_launcher (works : ∀ operation, repository.faults operation = none)
    (asked : scheme ∈ Scheme.forLaunchers) (distinct : DistinctTokens repository.document) :
    Staged (check scheme repository credentials now)
      (TurnedAway repository.document now credentials.authorization)
      (Shows repository.document now credentials.authorization)
      (fun edition => LauncherMay repository.document credentials.parameters edition scheme)
      Grant.launcher credentials.parameters scheme := by
  have passes : ∀ edition, Shows repository.document now credentials.authorization edition →
      launcher repository credentials now = .ok edition :=
    fun _ shows_ => (launcher_eq_ok_iff works).mpr ((bears_iff_shows distinct).mpr shows_)
  constructor
  · exact turnedAway_or_shows _ _ _
  · intro denial turned
    exact check_denied_iff.mpr
      (decide_of_stopped asked (launcher_of_turnedAway works distinct turned))
  · intro edition outcome known unnamed
    have bears := (bears_iff_shows distinct).mpr known
    exact check_of_unnamed works (admitted_of_bears asked bears) unnamed
  · intro edition known named may
    exact check_granted_iff.mpr ((decide_of_launcher works asked (passes _ known) named).1 may)
  · intro edition known named mayNot
    exact check_denied_iff.mpr ((decide_of_launcher works asked (passes _ known) named).2 mayNot)

/--
Access that asks for a launcher is decided by the policy for launchers, in every case and in no
other way.  Whatever is granted is granted for the edition that the header leads to, and another
session of the browser makes no difference.
-/
theorem check_iff_launcherPolicy (document : Document) (credentials : Credentials) (now : Instant)
    {scheme : Scheme} (asked : scheme ∈ Scheme.forLaunchers) (distinct : DistinctTokens document) :
    let checked := check scheme ⟨document, Faults.none⟩ credentials now
    (∀ outcome, checked = outcome ↔
      LauncherPolicy document credentials.authorization credentials.parameters now scheme
        outcome) ∧
    (∀ grant, checked = .ok (.granted grant) →
      ∃ edition, grant = .launcher edition ∧
        Shows document now credentials.authorization edition) ∧
    ∀ session, check scheme ⟨document, Faults.none⟩ { credentials with session } now = checked := by
  intro checked
  have works : ∀ operation, Faults.none operation = none := fun _ => rfl
  have decided : ∀ outcome, checked = outcome ↔
      LauncherPolicy document credentials.authorization credentials.parameters now scheme
        outcome :=
    fun outcome => (staged_launcher works asked distinct).eq_iff_ruling
  refine ⟨decided, ?_, ?_⟩
  · intro grant granted
    exact ((decided _).mp granted).known_of_granted
  · intro session
    have same := (decided checked).mp rfl
    exact (staged_launcher works asked distinct).eq_iff_ruling.mpr same

/-- A launcher may see a game of its edition up to the last millisecond of its session. -/
theorem check_iff_launcherPolicy_last :
    let edition : Edition := ⟨⟨2⟩, "Spring", none, [⟨7⟩], [], 0⟩
    let key : ProductKey := ⟨⟨3⟩, ⟨"AAAAA-AAAAA-AAAAA-AAAAA-AAAAA"⟩, .inactive, 0⟩
    let token := String.ofList (List.replicate 64 'a')
    let session : LauncherSession := ⟨⟨4⟩, ⟨token⟩, 1000⟩
    let document : Document := {
      editions := Table.empty.insert edition.id edition
      productKeys := Table.empty.insert key.id ⟨edition.id, key⟩
      launcherSessions := Table.empty.insert session.id ⟨key.id, session⟩ }
    let credentials : Credentials := {
      authorization := some ("Bearer " ++ token)
      parameters := [("gameID", "00000000-0000-0000-0000-000000000007")] }
    DistinctTokens document ∧
      check .launcherGame ⟨document, Faults.none⟩ credentials 999 =
        .ok (.granted (.launcher edition)) ∧
      check .launcherGame ⟨document, Faults.none⟩ credentials 1000 =
        .ok (.denied (.unauthenticated "expired access token")) := by
  intro edition key token session document credentials
  have asked : Scheme.launcherGame ∈ Scheme.forLaunchers := by decide
  have distinct : DistinctTokens document := List.nodup_singleton _
  have wellFormed : WellFormed token := by
    have characters : token.toList = List.replicate 64 'a' := String.toList_ofList
    unfold WellFormed
    rw [characters]
    refine ⟨List.length_replicate, fun character membership => ?_⟩
    rw [List.eq_of_mem_replicate membership]
    rfl
  have opens : Opens document token session edition :=
    ⟨_, List.mem_singleton_self _, _, rfl, rfl, rfl, rfl⟩
  have spelled : Id.ofText? "00000000-0000-0000-0000-000000000007" = some (⟨7⟩ : GameId) := by
    decide +kernel
  have names : Names credentials.parameters "gameID" (⟨7⟩ : GameId) := ⟨_, rfl, spelled⟩
  refine ⟨distinct, ?_, ?_⟩
  · apply ((check_iff_launcherPolicy document credentials 999 asked distinct).1 _).mpr
    refine .granted ⟨token, session, rfl, wellFormed, opens, by decide⟩ ?_ ⟨⟨7⟩, names, ?_⟩
    · rintro _ _ ⟨⟩
      exact ⟨_, names⟩
    · exact List.mem_singleton_self _
  · apply ((check_iff_launcherPolicy document credentials 1000 asked distinct).1 _).mpr
    exact .turnedAway (.expired wellFormed opens (by decide))

end Access

end GameCatalog
