import GameCatalog.Proofs.Access.LauncherPolicy
import GameCatalog.Proofs.Access.VisibilityPolicy
import GameCatalog.Proofs.Store.Enlargement

/-!
Access only grows.  Whoever is let in is let in at every earlier instant, and also when the
document says more in favour of anyone.  The grant itself need not stay the same: those who see a
public game as anyone see it as members before their identity runs out, and a launcher is let in
for its edition as that is stored by then.  Owners may do what maintainers may.
-/

namespace GameCatalog.Access

section Grants

variable {Subject : Type} {checked : Except CheckError Verdict} {turnedAway : Denial → Prop}
  {known entitled : Subject → Prop} {grant : Subject → Grant}
  {parameters : List (String × String)} {scheme : Scheme}

theorem Staged.grants_iff
    (staged : Staged checked turnedAway known entitled grant parameters scheme) :
    (∃ given, checked = .ok (.granted given)) ↔
      ∃ subject, known subject ∧ Named parameters scheme ∧ entitled subject := by
  constructor
  · rintro ⟨given, granted⟩
    cases staged.eq_iff_ruling.mp granted with
    | unnamed asks unnamed => cases unnamed
    | granted asks named may => exact ⟨_, asks, named, may⟩
  · rintro ⟨subject, asks, named, may⟩
    exact ⟨grant subject, staged.granted subject asks named may⟩

end Grants

/-- The scheme lets the credentials in, as whomever. -/
def Grants (scheme : Scheme) (document : Document) (credentials : Credentials) (now : Instant) :
    Prop :=
  ∃ grant, check scheme ⟨document, Faults.none⟩ credentials now = .ok (.granted grant)

variable {first second : Document} {credentials : Credentials} {early late now : Instant}
  {scheme : Scheme}

theorem grants_iff_of_forMembers (asked : scheme ∈ Scheme.forMembers) :
    Grants scheme first credentials now ↔
      ∃ user, Identifies credentials.session now user ∧ Named credentials.parameters scheme ∧
        MemberMay first credentials.parameters user.id scheme :=
  (staged_member (fun _ => rfl) asked).grants_iff

theorem grants_iff_of_forLaunchers (asked : scheme ∈ Scheme.forLaunchers)
    (distinct : DistinctTokens first) :
    Grants scheme first credentials now ↔
      ∃ edition, Shows first now credentials.authorization edition ∧
        Named credentials.parameters scheme ∧
        LauncherMay first credentials.parameters edition scheme :=
  (staged_launcher (fun _ => rfl) asked distinct).grants_iff

theorem grants_iff_of_forAnyone (asked : scheme ∈ Scheme.forAnyone) :
    Grants scheme first credentials now ↔
      ∃ id game, Names credentials.parameters "gameID" id ∧ first.games.get? id = some game ∧
        ((∃ user, Identifies credentials.session now user) ∨ game.visibility = .public) := by
  have works : ∀ operation, Faults.none operation = none := fun _ => rfl
  constructor
  · rintro ⟨grant, granted⟩
    cases (check_eq_iff_visibilityPolicy works asked).mp granted with
    | member named known identified => exact ⟨_, _, named, known, .inl ⟨_, identified⟩⟩
    | anonymous named known stranger isPublic => exact ⟨_, _, named, known, .inr isPublic⟩
  · rintro ⟨id, game, named, known, sees⟩
    by_cases identified : ∃ user, Identifies credentials.session now user
    · obtain ⟨user, identified⟩ := identified
      exact ⟨_, check_of_visibilityPolicy works asked (.member named known identified)⟩
    · have isPublic := sees.resolve_left identified
      have stranger := not_exists.mp identified
      exact ⟨_, check_of_visibilityPolicy works asked (.anonymous named known stranger isPublic)⟩

section Growth

variable (grown : first.Extends second)
include grown

theorem holdsRole_of_extends {game : GameId} {user : UserId} {role : GameRole}
    (held : HoldsRole first game user role) :
    ∃ higher, HoldsRole second game user higher ∧ role.AtMost higher := by
  have same {document : Document} {role : GameRole} :
      document.gameRole game user = some role ↔ HoldsRole document game user role :=
    Option.bind_eq_some_iff
  obtain ⟨higher, heldThere, atMost⟩ := grown.roles game user role (same.mpr held)
  exact ⟨higher, same.mp heldThere, atMost⟩

theorem memberMay_of_extends {parameters : List (String × String)} {user : UserId}
    (may : MemberMay first parameters user scheme) : MemberMay second parameters user scheme := by
  cases scheme with
  | member => trivial
  | admin => exact grown.admins user may
  | gameOwner =>
      obtain ⟨game, named, administers | owns⟩ := may
      · exact ⟨game, named, .inl (grown.admins user administers)⟩
      · obtain ⟨higher, held, rfl | rfl⟩ := holdsRole_of_extends grown owns
        · exact ⟨game, named, .inr held⟩
        · exact ⟨game, named, .inr held⟩
  | gameMaintainer =>
      obtain ⟨game, named, administers | owns | maintains⟩ := may
      · exact ⟨game, named, .inl (grown.admins user administers)⟩
      · obtain ⟨higher, held, rfl | rfl⟩ := holdsRole_of_extends grown owns
        · exact ⟨game, named, .inr (.inl held)⟩
        · exact ⟨game, named, .inr (.inl held)⟩
      · obtain ⟨higher, held, rfl | rfl⟩ := holdsRole_of_extends grown maintains
        · exact ⟨game, named, .inr (.inr held)⟩
        · exact ⟨game, named, .inr (.inl held)⟩
  | editionManager =>
      obtain ⟨id, named, edition, known, manages⟩ := may
      obtain ⟨larger, knownThere, extended⟩ := grown.editions id edition known
      exact ⟨id, named, larger, knownThere, extended.managers user manages⟩
  | _ => exact may.elim

theorem opens_of_extends {token : String} {session : LauncherSession} {edition : Edition}
    (opens : Opens first token session edition) :
    ∃ larger, Opens second token session larger ∧ edition.Extends larger := by
  obtain ⟨stored, there, key, sameSession, sameToken, keyThere, known⟩ := opens
  obtain ⟨larger, knownThere, extended⟩ := grown.editions key.edition edition known
  refine ⟨larger, ⟨stored, ?_, key, sameSession, sameToken, ?_, knownThere⟩, extended⟩
  · rw [grown.launcherSessions]
    exact there
  · rw [grown.productKeys]
    exact keyThere

theorem launcherMay_of_extends {parameters : List (String × String)} {edition larger : Edition}
    (extended : edition.Extends larger) (may : LauncherMay first parameters edition scheme) :
    LauncherMay second parameters larger scheme := by
  cases scheme with
  | launcher => trivial
  | launcherEdition =>
      unfold LauncherMay
      rw [extended.id]
      exact may
  | launcherGame =>
      obtain ⟨game, named, listed⟩ := may
      exact ⟨game, named, extended.gameIds game listed⟩
  | launcherFile =>
      obtain ⟨file, named, id, listed, game, known, found, there, same⟩ := may
      obtain ⟨largerGame, knownThere, grownGame⟩ := grown.games id game known
      obtain ⟨other, otherThere, otherSame⟩ := grownGame.files found there
      exact ⟨file, named, id, extended.gameIds id listed, largerGame, knownThere, other, otherThere,
        otherSame.trans same⟩
  | _ => exact may.elim

end Growth

theorem Identifies.earlier {session : Option ClientSession} {user : User} (before : early ≤ late)
    (identified : Identifies session late user) : Identifies session early user := by
  obtain ⟨client, identity, held, carried, named, inTime⟩ := identified
  exact ⟨client, identity, held, carried, named, UInt64.lt_of_le_of_lt before inTime⟩

theorem distinctTokens_of_extends (grown : first.Extends second) (distinct : DistinctTokens first) :
    DistinctTokens second := by
  unfold DistinctTokens
  rw [grown.launcherSessions]
  exact distinct

theorem forMembers_or_forLaunchers_or_forAnyone (scheme : Scheme) :
    scheme ∈ Scheme.forMembers ∨ scheme ∈ Scheme.forLaunchers ∨ scheme ∈ Scheme.forAnyone := by
  cases scheme <;> decide

theorem Grants.mono (grown : first.Extends second) (distinct : DistinctTokens first)
    (before : early ≤ late) (granted : Grants scheme first credentials late) :
    Grants scheme second credentials early := by
  rcases forMembers_or_forLaunchers_or_forAnyone scheme with asked | asked | asked
  · obtain ⟨user, identified, named, may⟩ := (grants_iff_of_forMembers asked).mp granted
    apply (grants_iff_of_forMembers asked).mpr
    exact ⟨user, identified.earlier before, named, memberMay_of_extends grown may⟩
  · obtain ⟨edition, ⟨token, session, shown, wellFormed, opens, inTime⟩, named, may⟩ :=
      (grants_iff_of_forLaunchers asked distinct).mp granted
    obtain ⟨larger, opensThere, extended⟩ := opens_of_extends grown opens
    apply (grants_iff_of_forLaunchers asked (distinctTokens_of_extends grown distinct)).mpr
    refine ⟨larger, ?_, named, launcherMay_of_extends grown extended may⟩
    exact ⟨token, session, shown, wellFormed, opensThere, UInt64.lt_of_le_of_lt before inTime⟩
  · obtain ⟨id, game, named, known, sees⟩ := (grants_iff_of_forAnyone asked).mp granted
    obtain ⟨larger, knownThere, extended⟩ := grown.games id game known
    apply (grants_iff_of_forAnyone asked).mpr
    refine ⟨id, larger, named, knownThere, ?_⟩
    rcases sees with ⟨user, identified⟩ | isPublic
    · exact .inl ⟨user, identified.earlier before⟩
    · exact .inr (extended.isPublic isPublic)

theorem gameRole_mono {repository : Repository} {grant : Grant}
    {strict lenient : GameRole → Bool} {reason other : String}
    (weaker : ∀ role, strict role = true → lenient role = true)
    (granted : gameRole strict reason repository credentials now = .ok grant) :
    gameRole lenient other repository credentials now = .ok grant := by
  unfold gameRole at granted ⊢
  obtain ⟨user, shown, granted⟩ := bind_eq_ok_iff.mp granted
  obtain ⟨game, named, granted⟩ := bind_eq_ok_iff.mp granted
  obtain ⟨isAdmin, answered, granted⟩ := bind_eq_ok_iff.mp granted
  refine bind_eq_ok_iff.mpr ⟨user, shown, bind_eq_ok_iff.mpr ⟨game, named, ?_⟩⟩
  refine bind_eq_ok_iff.mpr ⟨isAdmin, answered, ?_⟩
  cases isAdmin with
  | true => exact granted
  | false =>
      obtain ⟨role?, held, granted⟩ := bind_eq_ok_iff.mp granted
      refine bind_eq_ok_iff.mpr ⟨role?, held, ?_⟩
      cases role? with
      | none => simp [deny] at granted
      | some role =>
          by_cases allowed : strict role = true
          · simp only [allowed, if_true] at granted
            simp only [weaker role allowed, if_true]
            exact granted
          · simp [allowed, deny] at granted

/--
Access is monotone in time and in what the document says in favour of anyone, which enlargements
only add to; and what is granted to an owner is granted to them as a maintainer.
-/
theorem grants_monotone :
    (∀ first second : Document, first.Extends second → DistinctTokens first →
      ∀ (scheme : Scheme) (credentials : Credentials) (early late : Instant), early ≤ late →
        Grants scheme first credentials late → Grants scheme second credentials early) ∧
    (∀ first second : Document, Relation.ReflTransGen Document.Enlarges first second →
      first.Extends second) ∧
    ∀ (repository : Repository) (credentials : Credentials) (now : Instant) (grant : Grant),
      check .gameOwner repository credentials now = .ok (.granted grant) →
        check .gameMaintainer repository credentials now = .ok (.granted grant) := by
  refine ⟨?_, ?_, ?_⟩
  · intro first second grown distinct scheme credentials early late before granted
    exact granted.mono grown distinct before
  · intro first second enlarged
    exact Document.Extends.of_enlargements enlarged
  · intro repository credentials now grant granted
    rw [check_granted_iff] at granted ⊢
    apply gameRole_mono _ granted
    intro role _
    cases role <;> rfl

/--
A maintainer is made an owner, and the game is shown to everyone: the maintainer may do what asks
for a maintainer as before, and at an earlier instant too.
-/
theorem grants_monotone_raised :
    let user : User := ⟨⟨1⟩, "Ada"⟩
    let game : Game := ⟨⟨7⟩, "Atlas", "", .limited, [], 0⟩
    let first : Document := {
      games := Table.empty.insert game.id game
      gameRoles := Table.empty.insert game.id (Table.empty.insert user.id .maintainer) }
    let raised := first.setGameRole game.id user.id .owner
    let second : Document := {
      raised with games := raised.games.insert game.id { game with visibility := .public } }
    let credentials : Credentials := {
      session := some { identity := some ⟨⟨"issued"⟩, 1000, none⟩, user := some user }
      parameters := [("gameID", "00000000-0000-0000-0000-000000000007")] }
    Relation.ReflTransGen Document.Enlarges first second ∧ DistinctTokens first ∧
      Grants .gameMaintainer first credentials 999 ∧
      Grants .gameMaintainer second credentials 500 ∧
      check .gameOwner ⟨second, Faults.none⟩ credentials 500 = .ok (.granted (.member user)) ∧
      check .gameMaintainer ⟨second, Faults.none⟩ credentials 500 =
        .ok (.granted (.member user)) := by
  intro user game first raised second credentials
  obtain ⟨monotone, extended, lenient⟩ := grants_monotone
  have enlarged : Relation.ReflTransGen Document.Enlarges first second := by
    have promoted : first.Enlarges raised := .raised rfl
    exact .tail (.single promoted) (.shown rfl)
  have distinct : DistinctTokens first := List.nodup_nil
  have granted : Grants .gameMaintainer first credentials 999 :=
    ⟨.member user, by decide +kernel⟩
  have owns : check .gameOwner ⟨second, Faults.none⟩ credentials 500 =
      .ok (.granted (.member user)) := by decide +kernel
  refine ⟨enlarged, distinct, granted, ?_, owns, ?_⟩
  · exact monotone first second (extended first second enlarged) distinct .gameMaintainer
      credentials 500 999 (by decide) granted
  · exact lenient ⟨second, Faults.none⟩ credentials 500 (.member user) owns

end GameCatalog.Access
