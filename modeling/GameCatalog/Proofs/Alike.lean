import GameCatalog.Proofs.Respects

/-!
Worlds that look alike to those who are not logged in.  Two documents are alike when they agree
on product keys, on launcher sessions, on which editions and games there are, and on the public
games.
-/

namespace GameCatalog

/-- The documents agree on all that can be seen without logging in. -/
structure Document.Alike (first second : Document) : Prop where
  productKeys : first.productKeys = second.productKeys
  launcherSessions : first.launcherSessions = second.launcherSessions
  editions : ∀ id, (first.editions.get? id).isSome = (second.editions.get? id).isSome
  games : ∀ id, (first.games.get? id).isSome = (second.games.get? id).isSome
  published : ∀ id, (first.games.get? id).filter (·.visibility = .public) =
    (second.games.get? id).filter (·.visibility = .public)

structure Disk.Alike (first second : Disk) : Prop where
  reachable : first.reachable = second.reachable
  directory : first.entry = .directory ↔ second.entry = .directory
  refusal : first.refusal = second.refusal

structure Store.Alike (first second : Store) : Prop where
  live : first.live.Alike second.live
  disk : first.disk.Alike second.disk

/-- The worlds differ in nothing but what takes logging in to see, and in what was recorded. -/
structure World.Alike (first second : World) : Prop where
  store : first.store.Alike second.store
  faults : first.faults = second.faults
  clock : first.clock = second.clock
  uptime : first.uptime = second.uptime
  symbols : first.symbols = second.symbols
  identifiers : first.identifiers = second.identifiers
  provider : first.provider = second.provider

namespace Document.Alike

variable {first second : Document}

theorem findProductKey (alike : first.Alike second) (text : String) :
    first.findProductKey text = second.findProductKey text := by
  unfold Document.findProductKey
  rw [alike.productKeys]

theorem insertLauncherSession (alike : first.Alike second) (key : ProductKeyId)
    (session : LauncherSession) :
    (first.insertLauncherSession key session).Alike (second.insertLauncherSession key session) where
  productKeys := alike.productKeys
  launcherSessions := by
    simp only [Document.insertLauncherSession, alike.launcherSessions]
  editions := alike.editions
  games := alike.games
  published := alike.published

/-- Alike documents know the same sessions, up to the editions that these give access to. -/
theorem findLauncherSession (alike : first.Alike second) (token : String) :
    (first.findLauncherSession token).map LauncherAccess.session =
      (second.findLauncherSession token).map LauncherAccess.session := by
  unfold Document.findLauncherSession
  rw [alike.launcherSessions, alike.productKeys]
  cases second.launcherSessions.search fun stored =>
    stored.session.accessToken.expose = token with
  | none => rfl
  | some stored =>
      simp only [Option.bind_eq_bind, Option.bind_some]
      cases second.productKeys.get? stored.productKey with
      | none => rfl
      | some key =>
          have known := alike.editions key.edition
          simp only [Option.bind_some]
          cases firstEdition : first.editions.get? key.edition <;>
            cases secondEdition : second.editions.get? key.edition <;>
            simp_all

theorem game_of_public (alike : first.Alike second) {id : GameId} {game : Game}
    (found : first.games.get? id = some game) (isPublic : game.visibility = .public) :
    second.games.get? id = some game := by
  have published := alike.published id
  rw [found, Option.filter_some_pos (by simpa using isPublic)] at published
  exact (Option.filter_eq_some_iff.mp published.symm).1

/-- A game that is not public on the one side is there and not public on the other side. -/
theorem game_of_not_public (alike : first.Alike second) {id : GameId} {game : Game}
    (found : first.games.get? id = some game) (notPublic : game.visibility ≠ .public) :
    ∃ other, second.games.get? id = some other ∧ other.visibility ≠ .public := by
  have games := alike.games id
  have published := alike.published id
  rw [found] at games
  rw [found, Option.filter_some_neg (by simpa using notPublic)] at published
  obtain ⟨other, there⟩ := Option.isSome_iff_exists.mp games.symm
  refine ⟨other, there, fun isPublic => ?_⟩
  rw [there, Option.filter_some_pos (by simpa using isPublic)] at published
  contradiction

end Document.Alike

namespace Disk.Alike

variable {first second : Disk}

theorem refusal? (alike : first.Alike second) : first.refusal? = second.refusal? := by
  unfold Disk.refusal?
  simp only [alike.refusal, alike.reachable, alike.directory]

end Disk.Alike

namespace Store.Alike

variable {first second : Store}

theorem written (alike : first.Alike second) {firstNext secondNext : Document}
    (next : firstNext.Alike secondNext) :
    (first.written firstNext).Alike (second.written secondNext) where
  live := next
  disk := ⟨alike.disk.reachable, by simp [Store.written], alike.disk.refusal⟩

theorem of_untouched (alike : first.Alike second) {firstAfter secondAfter : Store}
    (firstUntouched : first.Untouched firstAfter) (secondUntouched : second.Untouched secondAfter) :
    firstAfter.Alike secondAfter := by
  obtain ⟨_, rfl⟩ := firstUntouched
  obtain ⟨_, rfl⟩ := secondUntouched
  exact ⟨alike.live, alike.disk.reachable, alike.disk.directory, alike.disk.refusal⟩

theorem commitTotal (alike : first.Alike second) {change : Document → Document}
    (changed : (change first.live).Alike (change second.live)) :
    (first.commitTotal change).1 = (second.commitTotal change).1 ∧
      (first.commitTotal change).2.Alike (second.commitTotal change).2 := by
  have sameRefusal := alike.disk.refusal?
  cases refused : second.disk.refusal? with
  | none =>
      rw [refused] at sameRefusal
      rw [commitTotal_of_accepts sameRefusal, commitTotal_of_accepts refused]
      exact ⟨rfl, alike.written changed⟩
  | some refusal =>
      rw [refused] at sameRefusal
      obtain ⟨firstAfter, firstFailed, firstUntouched⟩ := commitTotal_of_refuses sameRefusal change
      obtain ⟨secondAfter, secondFailed, secondUntouched⟩ := commitTotal_of_refuses refused change
      rw [firstFailed, secondFailed]
      exact ⟨rfl, alike.of_untouched firstUntouched secondUntouched⟩

end Store.Alike

theorem World.Alike.answer {first second : World} (alike : first.Alike second) {Value : Type}
    (operation : Operation) {question : Document → Value}
    (same : question first.store.live = question second.store.live) :
    first.repository.answer operation question = second.repository.answer operation question := by
  unfold Repository.answer World.repository
  simp only [alike.faults, same]

theorem World.likeness_alike : Likeness World.Alike where
  faults := World.Alike.faults
  clock := World.Alike.clock
  uptime := World.Alike.uptime
  symbols := World.Alike.symbols
  identifiers := World.Alike.identifiers
  provider := World.Alike.provider
  withSymbols alike _ := { alike with symbols := rfl }
  withIdentifiers alike _ := { alike with identifiers := rfl }
  recorded alike _ _ _ _ := { alike with }
  findProductKey alike text := alike.answer _ (alike.store.live.findProductKey text)
  saveLauncherSession := by
    intro first second alike key session
    have inserted := alike.store.live.insertLauncherSession key session
    obtain ⟨sameEnding, alikeAfter⟩ :=
      @Store.Alike.commitTotal _ _ alike.store (·.insertLauncherSession key session) inserted
    exact ⟨sameEnding, { alike with store := alikeAfter }⟩

end GameCatalog
