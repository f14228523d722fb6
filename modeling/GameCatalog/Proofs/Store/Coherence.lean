import GameCatalog.Proofs.Store.Durability
import GameCatalog.Store.Query

/-!
Coherence of the document.  Every record stands under the identifier that it carries, every key
belongs to an edition that is there, every session to a key that is there, and no administrator
is named twice.  Each mutation keeps a document coherent, as long as the edition of the keys or
the key of the session that it puts in is there; for nothing that can be referred to is ever
taken out.
-/

namespace GameCatalog

namespace Table

variable {Key Value : Type} [DecidableEq Key] {table : Table Key Value} {idOf : Value → Key}

def Keyed (table : Table Key Value) (idOf : Value → Key) : Prop :=
  ∀ key value, table.get? key = some value → idOf value = key

theorem keyed_empty (idOf : Value → Key) : (empty : Table Key Value).Keyed idOf :=
  fun _ _ found => nomatch found

theorem Keyed.insert (keyed : table.Keyed idOf) {key : Key} {value : Value}
    (own : idOf value = key) : (table.insert key value).Keyed idOf := by
  intro other stored found
  rw [get?_insert] at found
  split at found
  · rename_i same
    cases found
    exact own.trans same
  · exact keyed other stored found

theorem Keyed.filter (keyed : table.Keyed idOf) (test : Value → Bool) :
    (table.filter test).Keyed idOf := by
  intro key value found
  rw [get?_filter] at found
  exact keyed key value (Option.filter_eq_some_iff.mp found).1

end Table

namespace Document

theorem keyed_insertProductKeys {document : Document}
    (keyed : document.productKeys.Keyed (·.productKey.id)) (edition : EditionId)
    (keys : List ProductKey) :
    (document.insertProductKeys edition keys).productKeys.Keyed (·.productKey.id) := by
  induction keys generalizing document with
  | nil => exact keyed
  | cons key keys inductionHypothesis =>
      have one : (document.insertProductKeys edition [key]).productKeys.Keyed
          (·.productKey.id) := keyed.insert rfl
      exact inductionHypothesis one

/-- The records of the document stand where they belong, and refer to what is there. -/
structure Coherent (document : Document) : Prop where
  editions : document.editions.Keyed Edition.id
  games : document.games.Keyed Game.id
  productKeys : document.productKeys.Keyed (·.productKey.id)
  launcherSessions : document.launcherSessions.Keyed (·.session.id)
  /-- The edition of every key is there. -/
  keyEditions : ∀ stored ∈ document.productKeys.values,
    (document.editions.get? stored.edition).isSome = true
  /-- The key of every session is there. -/
  sessionKeys : ∀ stored ∈ document.launcherSessions.values,
    (document.productKeys.get? stored.productKey).isSome = true
  admins : document.admins.Nodup

theorem coherent_empty : empty.Coherent where
  editions := Table.keyed_empty _
  games := Table.keyed_empty _
  productKeys := Table.keyed_empty _
  launcherSessions := Table.keyed_empty _
  keyEditions := fun _ membership => nomatch membership
  sessionKeys := fun _ membership => nomatch membership
  admins := List.nodup_nil

namespace Coherent

variable {document : Document}

theorem insertEdition (coherent : document.Coherent) (edition : Edition) :
    (document.insertEdition edition).Coherent := {
  coherent with
  editions := coherent.editions.insert rfl
  keyEditions := fun stored membership =>
    Table.isSome_get?_insert edition (coherent.keyEditions stored membership) }

theorem insertGame (coherent : document.Coherent) (game : Game) :
    (document.insertGame game).Coherent :=
  { coherent with games := coherent.games.insert rfl }

theorem grantAdmin (coherent : document.Coherent) (user : UserId) :
    (document.grantAdmin user).Coherent := by
  unfold Document.grantAdmin
  split
  · exact coherent
  · rename_i notYet
    have distinct : (document.admins ++ [user]).Nodup := by
      rw [← List.concat_eq_append]
      exact coherent.admins.concat notYet
    exact { coherent with admins := distinct }

theorem setGameRole (coherent : document.Coherent) (game : GameId) (user : UserId)
    (role : GameRole) : (document.setGameRole game user role).Coherent :=
  { coherent with }

theorem updateVisibility (coherent : document.Coherent) {id : GameId} {visibility : Visibility}
    {game : Game} {next : Document}
    (changed : document.updateVisibility id visibility = .ok (game, next)) : next.Coherent := by
  unfold Document.updateVisibility at changed
  split at changed
  · contradiction
  · rename_i shown found
    cases changed
    exact { coherent with games := coherent.games.insert (coherent.games id shown found) }

theorem putKey (coherent : document.Coherent) {id : ProductKeyId} {stored : StoredKey}
    (own : stored.productKey.id = id)
    (known : (document.editions.get? stored.edition).isSome = true) :
    Coherent { document with productKeys := document.productKeys.insert id stored } where
  editions := coherent.editions
  games := coherent.games
  productKeys := coherent.productKeys.insert own
  launcherSessions := coherent.launcherSessions
  keyEditions := by
    intro other membership
    rcases Table.mem_values_insert membership with rfl | before
    · exact known
    · exact coherent.keyEditions other before
  sessionKeys := fun other membership =>
    Table.isSome_get?_insert stored (coherent.sessionKeys other membership)
  admins := coherent.admins

theorem insertProductKeys (coherent : document.Coherent) {edition : EditionId}
    (known : (document.editions.get? edition).isSome = true) (keys : List ProductKey) :
    (document.insertProductKeys edition keys).Coherent := by
  induction keys generalizing document with
  | nil => exact coherent
  | cons key rest inductionHypothesis =>
      have one := @putKey document coherent key.id ⟨edition, key⟩ rfl known
      exact inductionHypothesis one known

theorem updateProductKeyStatus (coherent : document.Coherent) {id : ProductKeyId}
    {status : KeyStatus} {next : Document}
    (changed : document.updateProductKeyStatus id status = .ok ((), next)) : next.Coherent := by
  unfold Document.updateProductKeyStatus at changed
  split at changed
  · contradiction
  · rename_i stored found
    cases changed
    have membership := Table.mem_values_iff.mpr ⟨id, found⟩
    exact coherent.putKey (coherent.productKeys id stored found)
      (coherent.keyEditions stored membership)

theorem insertLauncherSession (coherent : document.Coherent) {key : ProductKeyId}
    (known : (document.productKeys.get? key).isSome = true) (session : LauncherSession) :
    (document.insertLauncherSession key session).Coherent := {
  coherent with
  launcherSessions := coherent.launcherSessions.insert rfl
  sessionKeys := by
    intro other membership
    rcases Table.mem_values_insert membership with rfl | before
    · exact known
    · exact coherent.sessionKeys other before }

theorem dropExpiredSessions (coherent : document.Coherent) (now : Instant) :
    (document.dropExpiredSessions now).Coherent := {
  coherent with
  launcherSessions := coherent.launcherSessions.filter _
  sessionKeys := fun stored membership =>
    coherent.sessionKeys stored (Table.mem_values_filter membership) }

theorem isSome_of_findProductKey (coherent : document.Coherent) {text : String} {key : ProductKey}
    (found : document.findProductKey text = some key) :
    (document.productKeys.get? key.id).isSome = true := by
  obtain ⟨stored, there, rfl⟩ := Option.map_eq_some_iff.mp found
  obtain ⟨⟨id, standing⟩, -⟩ := Table.search_eq_some there
  have own : stored.productKey.id = id := coherent.productKeys id stored standing
  rw [own, standing]
  rfl

end Coherent

/-- The access joins a stored session with the token, its stored key and the stored edition. -/
structure Joins (document : Document) (token : String) (access : LauncherAccess) : Prop where
  token : access.session.accessToken.expose = token
  session : document.launcherSessions.get? access.session.id =
    some ⟨access.productKey.id, access.session⟩
  productKey : document.productKeys.get? access.productKey.id =
    some ⟨access.edition.id, access.productKey⟩
  edition : document.editions.get? access.edition.id = some access.edition

variable {document : Document} {token : String}

/-- What is found by a token is a session with that token, as it is stored, and what it leads to. -/
theorem Coherent.joins_of_found (coherent : document.Coherent) {access : LauncherAccess}
    (found : document.findLauncherSession token = some access) : document.Joins token access := by
  unfold findLauncherSession at found
  obtain ⟨stored, search, found⟩ := Option.bind_eq_some_iff.mp found
  obtain ⟨key, keyThere, found⟩ := Option.bind_eq_some_iff.mp found
  obtain ⟨edition, editionThere, same⟩ := Option.bind_eq_some_iff.mp found
  cases same
  obtain ⟨⟨id, there⟩, sameToken⟩ := Table.search_eq_some search
  have ownSession : stored.session.id = id := coherent.launcherSessions id stored there
  have ownKey : key.productKey.id = stored.productKey := coherent.productKeys _ key keyThere
  have ownEdition : edition.id = key.edition := coherent.editions _ edition editionThere
  constructor
  · exact of_decide_eq_true sameToken
  · dsimp only
    rw [ownSession, ownKey, there]
  · dsimp only
    rw [ownKey, ownEdition, keyThere]
  · dsimp only
    rw [ownEdition, editionThere]

/-- No session is lost to the lookup: neither its key nor the edition of the key is gone. -/
theorem Coherent.isSome_findLauncherSession (coherent : document.Coherent)
    {stored : StoredSession} (there : stored ∈ document.launcherSessions.values)
    (sameToken : stored.session.accessToken.expose = token) :
    ∃ access, document.findLauncherSession token = some access := by
  unfold findLauncherSession
  cases search : document.launcherSessions.search fun stored =>
      stored.session.accessToken.expose = token with
  | none =>
      have missed := List.find?_eq_none.mp search stored there
      simp [sameToken] at missed
  | some first =>
      obtain ⟨⟨id, firstThere⟩, -⟩ := Table.search_eq_some search
      obtain ⟨key, keyThere⟩ := Option.isSome_iff_exists.mp
        (coherent.sessionKeys first (Table.mem_values_iff.mpr ⟨id, firstThere⟩))
      obtain ⟨edition, editionThere⟩ := Option.isSome_iff_exists.mp
        (coherent.keyEditions key (Table.mem_values_iff.mpr ⟨_, keyThere⟩))
      refine ⟨⟨first.session, key.productKey, edition⟩, ?_⟩
      simp [keyThere, editionThere]

end Document

namespace Store.Mutation

def Refers (document : Document) : Mutation → Prop
  | saveProductKeys edition _ => (document.editions.get? edition).isSome = true
  | saveLauncherSession productKey _ => (document.productKeys.get? productKey).isSome = true
  | _ => True

theorem coherent_of_planned {mutation : Mutation} {document next : Document}
    (refers : mutation.Refers document) (planned : mutation.next? document = some next)
    (coherent : document.Coherent) : next.Coherent := by
  cases mutation with
  | insertEdition edition =>
      cases planned
      exact coherent.insertEdition edition
  | insertGame game =>
      cases planned
      exact coherent.insertGame game
  | grantAdmin user =>
      cases planned
      exact coherent.grantAdmin user
  | setGameRole game user role =>
      cases planned
      exact coherent.setGameRole game user role
  | updateVisibility id visibility =>
      simp only [next?] at planned
      cases changed : document.updateVisibility id visibility with
      | error error => simp [changed, Except.toOption] at planned
      | ok shown =>
          rw [changed] at planned
          cases planned
          exact coherent.updateVisibility changed
  | saveProductKeys edition keys =>
      cases planned
      exact coherent.insertProductKeys refers keys
  | updateProductKeyStatus id status =>
      simp only [next?] at planned
      cases changed : document.updateProductKeyStatus id status with
      | error error => simp [changed, Except.toOption] at planned
      | ok switched =>
          rw [changed] at planned
          cases planned
          exact coherent.updateProductKeyStatus changed
  | saveLauncherSession productKey session =>
      cases planned
      exact coherent.insertLauncherSession refers session
  | deleteExpiredSessions now =>
      simp only [next?] at planned
      split at planned
      · contradiction
      · cases planned
        exact coherent.dropExpiredSessions now

/-- A mutation keeps the document coherent, whether its write succeeds or fails. -/
theorem coherent_perform {store : Store} (mutation : Mutation)
    (refers : mutation.Refers store.live) (coherent : store.live.Coherent) :
    (mutation.perform store).2.live.Coherent := by
  have ended := mutation.ending store
  generalize mutation.perform store = outcome at ended
  cases ended with
  | written planned => exact coherent_of_planned refers planned coherent
  | idle nothing => exact coherent
  | failed untouched =>
      rw [untouched.live]
      exact coherent

end Store.Mutation

end GameCatalog
