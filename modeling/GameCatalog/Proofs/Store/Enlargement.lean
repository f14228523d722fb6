import GameCatalog.Proofs.Store.Table
import GameCatalog.Store.Mutation
import GameCatalog.Store.Query
import Mathlib.Logic.Relation

/-!
Documents that grow.  An enlargement makes someone an administrator or the manager of an edition,
gives a role on a game or raises one, lists games in an edition, puts in a game or a file of one,
or shows a game to everyone.  Whatever a document says in favour of anyone, it says after any
number of enlargements too.
-/

namespace GameCatalog

namespace Table

variable {Key Value : Type} [DecidableEq Key] {below : Value → Value → Prop}
  {first second third : Table Key Value} {key : Key} {larger : Value}

def Grows (below : Value → Value → Prop) (first second : Table Key Value) : Prop :=
  ∀ key value, first.get? key = some value →
    ∃ larger, second.get? key = some larger ∧ below value larger

theorem Grows.refl (belowItself : ∀ value, below value value) (table : Table Key Value) :
    Grows below table table :=
  fun _ value found => ⟨value, found, belowItself value⟩

theorem Grows.trans
    (transitive : ∀ {low middle high}, below low middle → below middle high →
      below low high)
    (early : Grows below first second) (late : Grows below second third) :
    Grows below first third := by
  intro key value found
  obtain ⟨middle, foundMiddle, lower⟩ := early key value found
  obtain ⟨high, foundHigh, upper⟩ := late key middle foundMiddle
  exact ⟨high, foundHigh, transitive lower upper⟩

theorem Grows.insert (belowItself : ∀ value, below value value)
    (replaced : ∀ value, first.get? key = some value → below value larger) :
    Grows below first (first.insert key larger) := by
  intro other value found
  by_cases same : key = other
  · subst same
    exact ⟨larger, by simp, replaced value found⟩
  · exact ⟨value, by simpa [same] using found, belowItself value⟩

end Table

structure Edition.Extends (first second : Edition) : Prop where
  id : second.id = first.id
  managers : ∀ user ∈ first.managers, user ∈ second.managers
  gameIds : ∀ game ∈ first.gameIds, game ∈ second.gameIds

/-- A game with all files of the first one, and public if that is. -/
structure Game.Extends (first second : Game) : Prop where
  files : ∀ file ∈ first.files, ∃ other ∈ second.files, other.id = file.id
  isPublic : first.visibility = .public → second.visibility = .public

def GameRole.AtMost (first second : GameRole) : Prop :=
  second = first ∨ second = .owner

theorem Edition.Extends.refl (edition : Edition) : edition.Extends edition :=
  ⟨rfl, fun _ membership => membership, fun _ membership => membership⟩

theorem Edition.Extends.trans {first second third : Edition} (early : first.Extends second)
    (late : second.Extends third) : first.Extends third where
  id := late.id.trans early.id
  managers := fun user membership => late.managers user (early.managers user membership)
  gameIds := fun game membership => late.gameIds game (early.gameIds game membership)

theorem Game.Extends.refl (game : Game) : game.Extends game :=
  ⟨fun file membership => ⟨file, membership, rfl⟩, fun isPublic => isPublic⟩

theorem Game.Extends.trans {first second third : Game} (early : first.Extends second)
    (late : second.Extends third) : first.Extends third where
  files := by
    intro file membership
    obtain ⟨middle, middleMembership, sameMiddle⟩ := early.files file membership
    obtain ⟨last, lastMembership, sameLast⟩ := late.files middle middleMembership
    exact ⟨last, lastMembership, sameLast.trans sameMiddle⟩
  isPublic := fun isPublic => late.isPublic (early.isPublic isPublic)

theorem GameRole.AtMost.trans {first second third : GameRole} (early : first.AtMost second)
    (late : second.AtMost third) : first.AtMost third := by
  rcases late with rfl | rfl
  · exact early
  · exact .inr rfl

namespace Document

/-- What the first document says in favour of anyone, the second one says too. -/
structure Extends (first second : Document) : Prop where
  admins : ∀ user ∈ first.admins, user ∈ second.admins
  editions : first.editions.Grows Edition.Extends second.editions
  games : first.games.Grows Game.Extends second.games
  roles : ∀ game user role, first.gameRole game user = some role →
    ∃ higher, second.gameRole game user = some higher ∧ role.AtMost higher
  productKeys : second.productKeys = first.productKeys
  launcherSessions : second.launcherSessions = first.launcherSessions

inductive Enlarges (document : Document) : Document → Prop where
  | admin (user : UserId) : Enlarges document (document.grantAdmin user)
  | manager {id : EditionId} {edition : Edition}
      (known : document.editions.get? id = some edition) (user : UserId) :
      Enlarges document {
        document with
        editions := document.editions.insert id {
          edition with managers := edition.managers ++ [user] } }
  | listed {id : EditionId} {edition : Edition}
      (known : document.editions.get? id = some edition) (game : GameId) :
      Enlarges document {
        document with
        editions := document.editions.insert id {
          edition with gameIds := edition.gameIds ++ [game] } }
  | role {game : GameId} {user : UserId} (vacant : document.gameRole game user = none)
      (role : GameRole) : Enlarges document (document.setGameRole game user role)
  | raised {game : GameId} {user : UserId}
      (held : document.gameRole game user = some .maintainer) :
      Enlarges document (document.setGameRole game user .owner)
  | game {game : Game} (vacant : document.games.get? game.id = none) :
      Enlarges document (document.insertGame game)
  | file {id : GameId} {game : Game} (known : document.games.get? id = some game)
      (file : GameFile) :
      Enlarges document {
        document with
        games := document.games.insert id { game with files := game.files ++ [file] } }
  | shown {id : GameId} {game : Game} (known : document.games.get? id = some game) :
      Enlarges document {
        document with games := document.games.insert id { game with visibility := .public } }

theorem gameRole_setGameRole (document : Document) (game other : GameId) (user someone : UserId)
    (role : GameRole) :
    (document.setGameRole game user role).gameRole other someone =
      if game = other ∧ user = someone then some role else document.gameRole other someone := by
  unfold gameRole setGameRole
  by_cases sameGame : game = other
  · subst sameGame
    by_cases sameUser : user = someone
    · simp [sameUser]
    · cases document.gameRoles.get? game <;> simp [sameUser]
  · simp [sameGame]

namespace Extends

variable {first second third : Document}

theorem refl (document : Document) : document.Extends document where
  admins := fun _ membership => membership
  editions := .refl .refl _
  games := .refl .refl _
  roles := fun _ _ role held => ⟨role, held, .inl rfl⟩
  productKeys := rfl
  launcherSessions := rfl

theorem trans (early : first.Extends second) (late : second.Extends third) :
    first.Extends third where
  admins := fun user membership => late.admins user (early.admins user membership)
  editions := early.editions.trans Edition.Extends.trans late.editions
  games := early.games.trans Game.Extends.trans late.games
  roles := by
    intro game user role held
    obtain ⟨middle, heldMiddle, lower⟩ := early.roles game user role held
    obtain ⟨high, heldHigh, upper⟩ := late.roles game user middle heldMiddle
    exact ⟨high, heldHigh, lower.trans upper⟩
  productKeys := late.productKeys.trans early.productKeys
  launcherSessions := late.launcherSessions.trans early.launcherSessions

/-- A role may be given to those who have none, and every role be raised to that of owners. -/
theorem setGameRole {game : GameId} {user : UserId} {role : GameRole}
    (raises : ∀ held, first.gameRole game user = some held → held.AtMost role) :
    first.Extends (first.setGameRole game user role) := {
  refl first with
  roles := by
    intro other someone held holds
    rw [gameRole_setGameRole]
    split
    · rename_i same
      obtain ⟨rfl, rfl⟩ := same
      exact ⟨role, rfl, raises held holds⟩
    · exact ⟨held, holds, .inl rfl⟩ }

theorem replaceEdition {id : EditionId} {edition larger : Edition}
    (known : first.editions.get? id = some edition) (extended : edition.Extends larger) :
    first.Extends { first with editions := first.editions.insert id larger } := {
  refl first with
  editions := by
    apply Table.Grows.insert Edition.Extends.refl
    intro other found
    cases known.symm.trans found
    exact extended }

theorem replaceGame {id : GameId} {game larger : Game}
    (known : first.games.get? id = some game) (extended : game.Extends larger) :
    first.Extends { first with games := first.games.insert id larger } := {
  refl first with
  games := by
    apply Table.Grows.insert Game.Extends.refl
    intro other found
    cases known.symm.trans found
    exact extended }

theorem of_enlarges (enlarges : first.Enlarges second) : first.Extends second := by
  cases enlarges with
  | admin user =>
      unfold grantAdmin
      split
      · exact refl first
      · exact {
          refl first with
          admins := fun other membership => List.mem_append_left _ membership }
  | manager known user =>
      exact replaceEdition known {
        Edition.Extends.refl _ with
        managers := fun other membership => List.mem_append_left _ membership }
  | listed known game =>
      exact replaceEdition known {
        Edition.Extends.refl _ with
        gameIds := fun other membership => List.mem_append_left _ membership }
  | role vacant role =>
      apply setGameRole
      intro held holds
      rw [vacant] at holds
      contradiction
  | raised held => exact setGameRole fun _ _ => .inr rfl
  | game vacant =>
      exact {
        refl first with
        games := by
          apply Table.Grows.insert Game.Extends.refl
          intro other found
          rw [vacant] at found
          contradiction }
  | file known file =>
      exact replaceGame known {
        Game.Extends.refl _ with
        files := fun other membership => ⟨other, List.mem_append_left _ membership, rfl⟩ }
  | shown known =>
      exact replaceGame known { Game.Extends.refl _ with isPublic := fun _ => rfl }

/-- Any number of enlargements extend a document. -/
theorem of_enlargements (enlarged : Relation.ReflTransGen Enlarges first second) :
    first.Extends second := by
  induction enlarged with
  | refl => exact refl first
  | tail _ enlarges inductionHypothesis => exact inductionHypothesis.trans (of_enlarges enlarges)

end Extends

end Document

end GameCatalog
