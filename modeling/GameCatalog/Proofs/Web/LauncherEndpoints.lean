import GameCatalog.Proofs.Access.LauncherPolicy
import GameCatalog.Proofs.Store.Coherence
import GameCatalog.Proofs.Web.Binding
import GameCatalog.Proofs.Web.Confinement
import GameCatalog.Proofs.Web.Guard
import GameCatalog.Proofs.Web.Noninterference

/-!
What a launcher is shown of its edition.  One endpoint lists the games of the edition, another
one shows a single game, and a third one a single file.  Guard and handler look everything up on
their own, and yet agree: a game or a file is shown exactly if the list has it.
-/

namespace GameCatalog

open Job

namespace Route

variable {piece : List Char}

theorem reached?_of_fills {first : List Char} {pieces : List (List Char)} {endpoint : Endpoint}
    {encoded : List (String × List Char)} {template : List Piece}
    (whole : ∀ piece ∈ first :: pieces, ∀ character ∈ piece, character ≠ '/')
    (there : (⟨template, [("GET", endpoint)]⟩ : Route) ∈ all)
    (fills : fill? template (first :: pieces) = some encoded)
    (only : ∀ route ∈ all, ∀ other, fill? route.template (first :: pieces) = some other →
      route.endpoints = [("GET", endpoint)] ∧ other = encoded) :
    reached? (pathOf (first :: pieces)) "GET" = some (endpoint, encoded) := by
  unfold reached? find?
  rw [pieces?_pathOf whole]
  cases found : all.findSome? fun route =>
      (fill? route.template (first :: pieces)).map (route, ·) with
  | none =>
      have unfilled := List.findSome?_eq_none_iff.mp found _ there
      simp [fills] at unfilled
  | some fit =>
      obtain ⟨known, membership, taken⟩ := List.exists_of_findSome?_eq_some found
      obtain ⟨filling, filled, rfl⟩ := Option.map_eq_some_iff.mp taken
      obtain ⟨endpoints, rfl⟩ := only _ membership _ filled
      simp [endpoint?, endpoints, found]

/-- The piece can stand for a parameter, and is none of the words of the routes for launchers. -/
structure Unreserved (piece : List Char) : Prop where
  whole : ∀ character ∈ piece, character ≠ '/'
  filled : piece ≠ []
  notGames : piece ≠ "games".toList
  notFiles : piece ≠ "files".toList
  notKeys : piece ≠ "keys".toList

theorem ne_of_spells {entity : Entity} {id : Id entity} {word : List Char}
    (spells : Spells piece id)
    (unspelled : (decodeParameter? word).bind (@Id.ofText? entity) = none) : piece ≠ word := by
  rintro rfl
  rw [Spells, unspelled] at spells
  contradiction

theorem unreserved_of_spells {entity : Entity} {id : Id entity}
    (whole : ∀ character ∈ piece, character ≠ '/') (spells : Spells piece id) :
    Unreserved piece where
  whole := whole
  filled := ne_of_spells spells rfl
  notGames := ne_of_spells spells rfl
  notFiles := ne_of_spells spells rfl
  notKeys := ne_of_spells spells rfl

section Reached

variable (unreserved : Unreserved piece)
include unreserved

theorem reached?_of_games :
    reached? ("/editions/".toList ++ piece ++ "/games".toList) "GET" =
      some (.editionGames, [("editionID", piece)]) := by
  have path_eq : "/editions/".toList ++ piece ++ "/games".toList =
      pathOf ["editions".toList, piece, "games".toList] := by simp [pathOf]
  have there : (⟨[.literal "editions", .parameter "editionID", .literal "games"],
      [("GET", .editionGames)]⟩ : Route) ∈ all := by decide
  have notGames : piece ≠ ['g', 'a', 'm', 'e', 's'] := unreserved.notGames
  have notFiles : piece ≠ ['f', 'i', 'l', 'e', 's'] := unreserved.notFiles
  rw [path_eq]
  apply reached?_of_fills (by simpa using unreserved.whole) there
  · simp [fill?]
  · simp [all, fill?_literal_iff, fill?_parameter_iff, fill?_nil_iff, notGames, notFiles]

theorem reached?_of_game :
    reached? ("/editions/games/".toList ++ piece) "GET" =
      some (.launcherGame, [("gameID", piece)]) := by
  have path_eq : "/editions/games/".toList ++ piece =
      pathOf ["editions".toList, "games".toList, piece] := by simp [pathOf]
  have there : (⟨[.literal "editions", .literal "games", .parameter "gameID"],
      [("GET", .launcherGame)]⟩ : Route) ∈ all := by decide
  have notGames : piece ≠ ['g', 'a', 'm', 'e', 's'] := unreserved.notGames
  have notKeys : piece ≠ ['k', 'e', 'y', 's'] := unreserved.notKeys
  rw [path_eq]
  apply reached?_of_fills (by simpa using unreserved.whole) there
  · simp [fill?, unreserved.filled]
  · simp [all, fill?_literal_iff, fill?_parameter_iff, fill?_nil_iff, notGames, notKeys]

theorem reached?_of_file :
    reached? ("/editions/files/".toList ++ piece) "GET" =
      some (.launcherFile, [("gameFileID", piece)]) := by
  have path_eq : "/editions/files/".toList ++ piece =
      pathOf ["editions".toList, "files".toList, piece] := by simp [pathOf]
  have there : (⟨[.literal "editions", .literal "files", .parameter "gameFileID"],
      [("GET", .launcherFile)]⟩ : Route) ∈ all := by decide
  have notGames : piece ≠ ['g', 'a', 'm', 'e', 's'] := unreserved.notGames
  have notKeys : piece ≠ ['k', 'e', 'y', 's'] := unreserved.notKeys
  rw [path_eq]
  apply reached?_of_fills (by simpa using unreserved.whole) there
  · simp [fill?, unreserved.filled]
  · simp [all, fill?_literal_iff, fill?_parameter_iff, fill?_nil_iff, notGames, notKeys]

end Reached

theorem decodeParameters?_singleton {name text : String}
    (decoded : decodeParameter? piece = some text) :
    decodeParameters? [(name, piece)] = some [(name, text)] := by
  simp [decodeParameters?, decoded]

end Route

section Lookup

variable {repository : Repository}

def Edition.existing (edition : Edition) (document : Document) : List Game :=
  edition.gameIds.filterMap document.games.get?

theorem Edition.mem_existing_iff {edition : Edition} {document : Document} {game : Game} :
    game ∈ edition.existing document ↔
      ∃ id ∈ edition.gameIds, document.games.get? id = some game :=
  List.mem_filterMap

/-- Under the identifier of a game stands that game, so the list has it at most once, if at all. -/
theorem Edition.mem_existing_iff_of_keyed {edition : Edition} {document : Document} {game : Game}
    (keyed : document.games.Keyed Game.id) :
    game ∈ edition.existing document ↔
      game.id ∈ edition.gameIds ∧ document.games.get? game.id = some game := by
  rw [mem_existing_iff]
  constructor
  · rintro ⟨id, named, there⟩
    have own : game.id = id := keyed id game there
    rw [own]
    exact ⟨named, there⟩
  · rintro ⟨named, there⟩
    exact ⟨game.id, named, there⟩

theorem Edition.map_id_existing {edition : Edition} {document : Document}
    (keyed : document.games.Keyed Game.id) :
    (edition.existing document).map Game.id =
      edition.gameIds.filter fun id => (document.games.get? id).isSome := by
  have own : ∀ id, (document.games.get? id).map Game.id =
      Option.guard (fun id => (document.games.get? id).isSome) id := by
    intro id
    cases there : document.games.get? id with
    | none => simp [Option.guard, there]
    | some game => simp [Option.guard, there, keyed id game there]
  unfold existing
  rw [List.map_filterMap, funext own, List.filterMap_eq_filter]

def Edition.file? (edition : Edition) (document : Document) (id : GameFileId) : Option GameFile :=
  (edition.existing document).findSome? fun game => game.files.find? (·.id = id)

theorem Edition.mem_of_file? {edition : Edition} {document : Document} {id : GameFileId}
    {file : GameFile} (found : edition.file? document id = some file) :
    file.id = id ∧ ∃ game ∈ edition.existing document, file ∈ game.files := by
  obtain ⟨game, listed, inFiles⟩ := List.exists_of_findSome?_eq_some found
  have isFile : file.id = id := by simpa using List.find?_some inFiles
  exact ⟨isFile, game, listed, List.mem_of_find?_eq_some inFiles⟩

theorem Edition.isSome_file?_iff {edition : Edition} {document : Document} {id : GameFileId} :
    (edition.file? document id).isSome = true ↔
      ∃ game ∈ edition.existing document, ∃ file ∈ game.files, file.id = id := by
  simp [file?, List.isSome_findSome?]

section Works

variable (works : ∀ operation, repository.faults operation = none)
include works

theorem existingGames_of_works (ids : List GameId) :
    Handler.existingGames repository ids = .ok (ids.filterMap repository.document.games.get?) := by
  induction ids with
  | nil => rfl
  | cons id ids inductionHypothesis =>
      simp only [Handler.existingGames, Access.getGame_of_works works, bind, Except.bind]
      cases there : repository.document.games.get? id with
      | none =>
          rw [List.filterMap_cons_none there]
          exact inductionHypothesis
      | some game =>
          rw [List.filterMap_cons_some there]
          simp only [inductionHypothesis]
          rfl

theorem findFile_of_works (file : GameFileId) (ids : List GameId) :
    Handler.findFile repository file ids =
      .ok ((ids.filterMap repository.document.games.get?).findSome? fun game =>
        game.files.find? (·.id = file)) := by
  induction ids with
  | nil => rfl
  | cons id ids inductionHypothesis =>
      simp only [Handler.findFile, Access.getGame_of_works works, bind, Except.bind]
      cases there : repository.document.games.get? id with
      | none =>
          rw [List.filterMap_cons_none there]
          exact inductionHypothesis
      | some game =>
          rw [List.filterMap_cons_some there, List.findSome?_cons]
          dsimp only
          cases game.files.find? (·.id = file) with
          | none => exact inductionHypothesis
          | some found => rfl

end Works

end Lookup

namespace Handler

variable {world : World} {visit : Visit}

theorem exec_editionGames (works : ∀ operation, world.faults operation = none)
    (edition : Edition) :
    exec (editionGames edition) world =
      (.ok (.json 200 (.array ((edition.existing world.store.live).map Game.view))), world) := by
  have asked : exec (ask fun repository => existingGames repository edition.gameIds) world =
      (.ok (edition.existing world.store.live), world) := by
    rw [exec_ask, existingGames_of_works works]
    rfl
  unfold editionGames
  rw [exec_bind_of_ok asked]
  rfl

theorem exec_game_of_missing (works : ∀ operation, world.faults operation = none) {id : GameId}
    (named : visit.parameters.identifier "gameID" = .ok id)
    (missing : world.store.live.games.get? id = none) :
    exec (game visit) world = (.error (.api (.notFound "game not found")), world) := by
  have asked : exec (ask (·.getGame id)) world = (.ok none, world) := by
    rw [exec_ask, Access.getGame_of_works works]
    exact congrArg (fun found => (Except.ok found, world)) missing
  unfold game loadGame
  rw [exec_expect_bind, named]
  refine exec_bind_of_error ?_
  rw [exec_bind_of_ok asked]
  rfl

theorem exec_launcherFile (works : ∀ operation, world.faults operation = none)
    {id : GameFileId} {edition : Edition} {file : GameFile}
    (named : visit.parameters.identifier "gameFileID" = .ok id)
    (found : edition.file? world.store.live id = some file) :
    exec (launcherFile visit edition) world = (.ok (.json 200 file.view), world) := by
  have asked : exec (ask fun repository => findFile repository id edition.gameIds) world =
      (.ok (some file), world) := by
    rw [exec_ask, findFile_of_works works]
    exact congrArg (fun found => (Except.ok found, world)) found
  unfold launcherFile
  rw [exec_expect_bind, named]
  dsimp only
  rw [exec_bind_of_ok asked]
  rfl

end Handler

namespace Gateway

/-- The request is a launcher's, whose token is good and leads to the edition. -/
structure Launches (request : Request) (world : World) (edition : Edition) : Prop where
  method : request.method = "GET"
  bears : Access.Bears world.store.live (request.header? "authorization") world.clock edition

section Launches

variable {gateway : Gateway} {request : Request} {world : World} {edition : Edition}
  {piece : List Char} {endpoint : Endpoint} {scheme : Scheme} {entity : Entity} {name : String}
  {id : Id entity}

theorem names_of_spells (gateway : Gateway) (request : Request) (name : String)
    (spells : Spells piece id) :
    Access.Names (gateway.credentials (visitOf request [(name, piece)])).parameters name id := by
  obtain ⟨text, decoded, spelled⟩ := Option.bind_eq_some_iff.mp spells
  refine ⟨text, ?_, spelled⟩
  simp [credentials, visitOf, Route.decodeParameters?_singleton decoded]

theorem identifier_of_spells (gateway : Gateway) (request : Request) (name : String)
    (spells : Spells piece id) :
    (visitOf request [(name, piece)]).parameters.identifier name = .ok id :=
  identifier_of_pathId (Access.pathId_of_names (gateway.names_of_spells request name spells))

/-- A launcher that may do what it asks for comes to the handler, and is refused otherwise. -/
theorem respond_of_launches (works : ∀ operation, world.faults operation = none)
    (launches : Launches request world edition) (asked : scheme ∈ Scheme.forLaunchers)
    (protection : endpoint.scheme? = some scheme)
    (read : scheme.parameter? = some (entity, name)) (spells : Spells piece id)
    (reached : Route.reached? request.path "GET" = some (endpoint, [(name, piece)])) :
    let visit := visitOf request [(name, piece)]
    let parameters := (gateway.credentials visit).parameters
    (Access.LauncherMay world.store.live parameters edition scheme → ∀ handled after,
      exec (handleGranted visit endpoint (.launcher edition))
        (gateway.guarded visit world scheme) = (handled, after) →
      (gateway.respond request world).1 = concluded handled) ∧
    (¬Access.LauncherMay world.store.live parameters edition scheme →
      (gateway.respond request world).1 = (ApiError.forbidden scheme.refusal).toResponse) := by
  intro visit parameters
  have whole : ∀ response, finalize request response = response := by
    intro response
    unfold finalize
    rw [launches.method]
    rfl
  have known : Access.launcher world.repository (gateway.credentials visit) world.clock =
      .ok edition := (Access.launcher_eq_ok_iff works).mpr launches.bears
  have named : Access.Named parameters scheme := by
    intro other otherName reads
    rw [read] at reads
    cases reads
    exact ⟨id, gateway.names_of_spells request name spells⟩
  obtain ⟨may, mayNot⟩ := Access.decide_of_launcher works asked known named
  rw [← launches.method] at reached
  constructor
  · intro entitled handled after ended
    have granted : Grant.ofCheck (gateway.checked visit world scheme) = .ok (.launcher edition) :=
      gateway.ofCheck_of_grant (may entitled)
    have served := (exec_serve_of_granted gateway visit world protection granted).trans ended
    have answered := (run_answer_of_reached gateway request world reached).trans
      (run_conclude world _)
    rw [respond_of_answer gateway request world answered, whole]
    exact congrArg (fun ended => concluded ended.1) served
  · intro refused
    have denied : gateway.checked visit world scheme =
        .ok (.denied (.forbidden scheme.refusal)) := Access.check_denied_iff.mpr (mayNot refused)
    rw [respond_of_denied gateway request world reached protection denied, whole]
    rfl

end Launches

section Endpoints

variable {gateway : Gateway} {request : Request} {world : World} {edition : Edition}
  {piece : List Char}

/-- What a launcher is told about a game that it asks for. -/
inductive TellsGame (edition : Edition) (document : Document) (id : GameId) : Response → Prop where
  | shown {game : Game} (named : id ∈ edition.gameIds)
      (there : document.games.get? id = some game) :
      TellsGame edition document id (.json 200 game.view)
  | missing (named : id ∈ edition.gameIds) (missing : document.games.get? id = none) :
      TellsGame edition document id (ApiError.notFound "game not found").toResponse
  | foreign (foreign : id ∉ edition.gameIds) :
      TellsGame edition document id (ApiError.forbidden Scheme.launcherGame.refusal).toResponse

/-- What a launcher is told about a file that it asks for.  A file cannot be missing. -/
inductive TellsFile (edition : Edition) (document : Document) (id : GameFileId) :
    Response → Prop where
  | shown {file : GameFile} (found : edition.file? document id = some file) :
      TellsFile edition document id (.json 200 file.view)
  | foreign (foreign : edition.file? document id = none) :
      TellsFile edition document id (ApiError.forbidden Scheme.launcherFile.refusal).toResponse

section Answers

variable (works : ∀ operation, world.faults operation = none)
  (launches : Launches request world edition)
  (whole : ∀ character ∈ piece, character ≠ '/')
include works launches whole

theorem respond_editionGames (spells : Spells piece edition.id)
    (path : request.path = "/editions/".toList ++ piece ++ "/games".toList) :
    (gateway.respond request world).1 =
      .json 200 (.array ((edition.existing world.store.live).map Game.view)) := by
  have reached := Route.reached?_of_games (Route.unreserved_of_spells whole spells)
  rw [← path] at reached
  have asked : Scheme.launcherEdition ∈ Scheme.forLaunchers := by decide
  have names := gateway.names_of_spells request "editionID" spells
  have granted := (gateway.respond_of_launches works launches asked rfl rfl spells reached).1 names
  exact granted _ _ (@Handler.exec_editionGames (gateway.guarded _ world _) works edition)

theorem tellsGame_respond {id : GameId} (spells : Spells piece id)
    (path : request.path = "/editions/games/".toList ++ piece) :
    TellsGame edition world.store.live id (gateway.respond request world).1 := by
  have reached := Route.reached?_of_game (Route.unreserved_of_spells whole spells)
  rw [← path] at reached
  have named := gateway.identifier_of_spells request "gameID" spells
  have asked : Scheme.launcherGame ∈ Scheme.forLaunchers := by decide
  obtain ⟨may, mayNot⟩ := gateway.respond_of_launches works launches asked rfl rfl spells reached
  have may_iff : Access.LauncherMay world.store.live
      (gateway.credentials (visitOf request [("gameID", piece)])).parameters edition
        .launcherGame ↔ id ∈ edition.gameIds :=
    Access.exists_names_iff (gateway.names_of_spells request "gameID" spells)
  by_cases inEdition : id ∈ edition.gameIds
  · have granted := may (may_iff.mpr inEdition)
    cases there : world.store.live.games.get? id with
    | none =>
        rw [granted _ _ (Handler.exec_game_of_missing works named there)]
        exact .missing inEdition there
    | some game =>
        rw [granted _ _ (Handler.exec_game named (works .getGame) there)]
        exact .shown inEdition there
  · rw [mayNot (mt may_iff.mp inEdition)]
    exact .foreign inEdition

theorem tellsFile_respond {id : GameFileId} (spells : Spells piece id)
    (path : request.path = "/editions/files/".toList ++ piece) :
    TellsFile edition world.store.live id (gateway.respond request world).1 := by
  have reached := Route.reached?_of_file (Route.unreserved_of_spells whole spells)
  rw [← path] at reached
  have named := gateway.identifier_of_spells request "gameFileID" spells
  have asked : Scheme.launcherFile ∈ Scheme.forLaunchers := by decide
  obtain ⟨may, mayNot⟩ := gateway.respond_of_launches works launches asked rfl rfl spells reached
  have may_iff : Access.LauncherMay world.store.live
      (gateway.credentials (visitOf request [("gameFileID", piece)])).parameters edition
        .launcherFile ↔ (edition.file? world.store.live id).isSome = true := by
    apply (Access.exists_names_iff (gateway.names_of_spells request "gameFileID" spells)).trans
    rw [Edition.isSome_file?_iff]
    simp only [Edition.mem_existing_iff]
    grind
  cases found : edition.file? world.store.live id with
  | none =>
      rw [mayNot (by simp [may_iff, found])]
      exact .foreign found
  | some file =>
      have granted := may (by simp [may_iff, found])
      rw [granted _ _ (@Handler.exec_launcherFile (gateway.guarded _ world _) _ works _ _ _ named
        found)]
      exact .shown found

end Answers

theorem get?_of_launches (keyed : world.store.live.editions.Keyed Edition.id)
    (launches : Launches request world edition) :
    world.store.live.editions.get? edition.id = some edition := by
  obtain ⟨_, _, access, _, _, _, found, _, rfl⟩ := launches.bears
  obtain ⟨_, _, key, _, _, _, there⟩ := Access.opens_of_found found
  have own : access.edition.id = key.edition := keyed _ _ there
  rw [own]
  exact there

theorem TellsGame.status_iff {document : Document} {id : GameId} {response : Response}
    (tells : TellsGame edition document id response) :
    (response.status = 200 ↔ id ∈ edition.gameIds ∧ (document.games.get? id).isSome = true) ∧
      (response.status = 404 ↔ id ∈ edition.gameIds ∧ document.games.get? id = none) ∧
      (response.status = 403 ↔ id ∉ edition.gameIds) := by
  cases tells with
  | shown named there => simp [Response.json, named, there]
  | missing named missing =>
      simp [ApiError.toResponse, ApiError.status, Response.json, named, missing]
  | foreign foreign => simp [ApiError.toResponse, ApiError.status, Response.json, foreign]

/-- The game that is shown is the one that the list of the edition has for the identifier. -/
theorem TellsGame.mem_existing {document : Document} {id : GameId} {response : Response}
    (keyed : document.games.Keyed Game.id) (tells : TellsGame edition document id response)
    (status : response.status = 200) :
    ∃ game ∈ edition.existing document, response = .json 200 game.view ∧
      ∀ other ∈ edition.existing document, other.id = id ↔ other = game := by
  cases tells with
  | missing | foreign => cases status
  | @shown game named there =>
      have own : game.id = id := keyed id game there
      refine ⟨game, Edition.mem_existing_iff.mpr ⟨id, named, there⟩, rfl, ?_⟩
      intro other listed
      constructor
      · rintro rfl
        have found := ((Edition.mem_existing_iff_of_keyed keyed).mp listed).2
        exact Option.some.inj (found.symm.trans there)
      · rintro rfl
        exact own

theorem TellsFile.status_iff {document : Document} {id : GameFileId} {response : Response}
    (tells : TellsFile edition document id response) :
    response.status = 200 ↔ ∃ game ∈ edition.existing document, ∃ file ∈ game.files,
      file.id = id := by
  rw [← Edition.isSome_file?_iff]
  cases tells with
  | shown found => simp [Response.json, found]
  | foreign foreign => simp [ApiError.toResponse, ApiError.status, Response.json, foreign]

theorem TellsFile.shown_or_forbidden {document : Document} {id : GameFileId} {response : Response}
    (tells : TellsFile edition document id response) :
    (∃ game ∈ edition.existing document, ∃ file ∈ game.files, file.id = id ∧
      response = .json 200 file.view) ∨ response.status = 403 := by
  cases tells with
  | shown found =>
      obtain ⟨isFile, game, listed, inFiles⟩ := Edition.mem_of_file? found
      exact .inl ⟨game, listed, _, inFiles, isFile, rfl⟩
  | foreign foreign => exact .inr rfl

/--
The endpoints for launchers agree with each other and with their guards.  The list has the games of
the edition that exist, in its order; a single game is shown exactly if the list has it, and is
its entry there; and a single file is shown exactly if a game of the list has it, and is refused
otherwise.  A game is shown by its identifier, names, visibility and time, a file by its
identifier, type and entry point, and the identifiers are read back from what is shown.
-/
theorem launcher_endpoints_agree (gateway : Gateway) (world : World) (edition : Edition)
    (works : ∀ operation, world.faults operation = none)
    (editionsKeyed : world.store.live.editions.Keyed Edition.id)
    (gamesKeyed : world.store.live.games.Keyed Game.id) :
    let games := world.store.live.games
    let listed := edition.existing world.store.live
    let shown := fun game : Game => Json.object
      [("id", .text game.id.toText), ("name", .text game.name),
        ("description", .text game.description), ("visibility", .text game.visibility.label),
        ("createdAt", .natural game.createdAt.toNat)]
    let shownFile := fun file : GameFile => Json.object
      [("id", .text file.id.toText), ("fileType", .text file.fileType),
        ("entryPoint", .text file.entryPoint)]
    ((∀ id : GameId, Id.ofText? id.toText = some id) ∧
      (∀ id : GameFileId, Id.ofText? id.toText = some id) ∧
      [Visibility.public, .limited, .private].map Visibility.label =
        ["public", "limited", "private"]) ∧
    (listed.map Game.id = edition.gameIds.filter fun id => (games.get? id).isSome) ∧
    (∀ game ∈ listed, games.get? game.id = some game) ∧
    ∀ request, Launches request world edition →
      world.store.live.editions.get? edition.id = some edition ∧
      ∀ piece : List Char, (∀ character ∈ piece, character ≠ '/') →
        let response := (gateway.respond request world).1
        (Spells piece edition.id →
          request.path = "/editions/".toList ++ piece ++ "/games".toList →
          response = .json 200 (.array (listed.map shown))) ∧
        (∀ id : GameId, Spells piece id →
          request.path = "/editions/games/".toList ++ piece →
          ((response.status = 200 ↔ id ∈ edition.gameIds ∧ (games.get? id).isSome = true) ∧
            (response.status = 404 ↔ id ∈ edition.gameIds ∧ games.get? id = none) ∧
            (response.status = 403 ↔ id ∉ edition.gameIds)) ∧
          (response.status = 200 → ∃ game ∈ listed, response = .json 200 (shown game) ∧
            ∀ other ∈ listed, other.id = id ↔ other = game)) ∧
        ∀ id : GameFileId, Spells piece id →
          request.path = "/editions/files/".toList ++ piece →
          (response.status = 200 ↔ ∃ game ∈ listed, ∃ file ∈ game.files, file.id = id) ∧
          ((∃ game ∈ listed, ∃ file ∈ game.files, file.id = id ∧
            response = .json 200 (shownFile file)) ∨ response.status = 403) := by
  intro games listed shown shownFile
  refine ⟨⟨Id.ofText?_toText, Id.ofText?_toText, rfl⟩, Edition.map_id_existing gamesKeyed, ?_, ?_⟩
  · intro game membership
    exact ((Edition.mem_existing_iff_of_keyed gamesKeyed).mp membership).2
  intro request launches
  refine ⟨get?_of_launches editionsKeyed launches, fun piece whole => ⟨?_, ?_, ?_⟩⟩
  · exact respond_editionGames works launches whole
  · intro id spells path
    have tells := @tellsGame_respond gateway _ _ _ _ works launches whole _ spells path
    exact ⟨tells.status_iff, tells.mem_existing gamesKeyed⟩
  · intro id spells path
    have tells := @tellsFile_respond gateway _ _ _ _ works launches whole _ spells path
    exact ⟨tells.status_iff, tells.shown_or_forbidden⟩

section Abridged

def abridged : Edition := ⟨⟨2⟩, "Spring", none, [⟨7⟩, ⟨8⟩, ⟨7⟩], [], 0⟩

def kept : Game := ⟨⟨7⟩, "Orbit", "A game", .private, [⟨⟨9⟩, "zip", "run"⟩], 0⟩

def abridgedToken : String := String.ofList (List.replicate 64 'a')

def abridging : World where
  store := {
    live := {
      editions := Table.empty.insert abridged.id abridged
      games := Table.empty.insert kept.id kept
      productKeys := Table.empty.insert ⟨3⟩
        ⟨abridged.id, ⟨⟨3⟩, ⟨"AAAAA-AAAAA-AAAAA-AAAAA-AAAAA"⟩, .active, 0⟩⟩
      launcherSessions := Table.empty.insert ⟨4⟩ ⟨⟨3⟩, ⟨⟨4⟩, ⟨abridgedToken⟩, 1000⟩⟩ }
    disk := {} }
  clock := 999
  symbols := ⟨[], 0⟩
  identifiers := ⟨[], 0⟩
  provider := ⟨fun _ _ => .error .invalidSession, fun _ => .error .invalidSession,
    fun _ => .error .invalidSession⟩

def abridgedRequest (path : List Char) : Request where
  method := "GET"
  path := path
  headers := [("authorization", Utf8.encode ("Bearer " ++ abridgedToken))]

theorem launches_abridgedRequest (path : List Char) :
    Launches (abridgedRequest path) abridging abridged where
  method := rfl
  bears := by
    have shown : (abridgedRequest path).header? "authorization" =
        some ("Bearer " ++ abridgedToken) :=
      show (abridgedRequest []).header? "authorization" = _ by decide +kernel
    exact ⟨_, List.replicate 64 'a', _, shown, by decide +kernel, by decide +kernel, rfl, rfl, rfl⟩

/-- The game is listed twice and shown once, and the one that does not exist is not listed. -/
theorem launcher_endpoints_agree_abridged :
    let orbit := Json.object
      [("id", .text "00000000-0000-0000-0000-000000000007"), ("name", .text "Orbit"),
        ("description", .text "A game"), ("visibility", .text "private"), ("createdAt", .natural 0)]
    let archive := Json.object
      [("id", .text "00000000-0000-0000-0000-000000000009"), ("fileType", .text "zip"),
        ("entryPoint", .text "run")]
    (secured.respond (abridgedRequest
        ("/editions/".toList ++ "00000000000000000000000000000002".toList ++ "/games".toList))
        abridging).1 = .json 200 (.array [orbit, orbit]) ∧
      (secured.respond (abridgedRequest ("/editions/games/".toList ++
        "urn:uuid:00000000-0000-0000-0000-000000000007".toList)) abridging).1 =
          .json 200 orbit ∧
      (secured.respond (abridgedRequest ("/editions/games/".toList ++
        "%7B00000000-0000-0000-0000-000000000008%7D".toList)) abridging).1.status = 404 ∧
      (secured.respond (abridgedRequest ("/editions/files/".toList ++
        "00000000000000000000000000000009".toList)) abridging).1 = .json 200 archive := by
  intro orbit archive
  have agree := launcher_endpoints_agree secured abridging abridged (fun _ => rfl)
    (.insert (Table.keyed_empty _) rfl) (.insert (Table.keyed_empty _) rfl)
  have answers (piece path : List Char) (whole : ∀ character ∈ piece, character ≠ '/') :=
    (agree.2.2.2 _ (launches_abridgedRequest path)).2 piece whole
  have ofGame (piece : List Char) (whole : ∀ character ∈ piece, character ≠ '/') (id : GameId)
      (spells : Spells piece id) :=
    (answers piece ("/editions/games/".toList ++ piece) whole).2.1 id spells rfl
  refine ⟨?_, ?_, ?_, ?_⟩
  · exact (answers _ _ (by simp)).1 (by decide +kernel) rfl
  · obtain ⟨status, shown⟩ := ofGame "urn:uuid:00000000-0000-0000-0000-000000000007".toList
      (by simp) ⟨7⟩ (by decide +kernel)
    obtain ⟨game, listed, same, only⟩ := shown (status.1.mpr ⟨by decide, rfl⟩)
    have keptListed : kept ∈ abridged.existing abridging.store.live := List.mem_cons_self
    rw [← (only kept keptListed).mp rfl] at same
    exact same
  · obtain ⟨status, -⟩ := ofGame "%7B00000000-0000-0000-0000-000000000008%7D".toList
      (by simp) ⟨8⟩ (by decide +kernel)
    exact status.2.1.mpr ⟨by decide, rfl⟩
  · have listedTwice : abridged.existing abridging.store.live = [kept, kept] := rfl
    obtain ⟨status, shown⟩ := (answers "00000000000000000000000000000009".toList _ (by simp)).2.2
      ⟨9⟩ (by decide +kernel) rfl
    rcases shown with ⟨game, listed, file, inFiles, -, same⟩ | refused
    · have onlyGame : game = kept := by
        rw [listedTwice] at listed
        simpa using listed
      subst onlyGame
      rw [List.mem_singleton.mp inFiles] at same
      exact same
    · have found := status.mpr ⟨kept, List.mem_cons_self, _, List.mem_cons_self, rfl⟩
      exact nomatch found.symm.trans refused

end Abridged

end Endpoints

end Gateway

end GameCatalog
