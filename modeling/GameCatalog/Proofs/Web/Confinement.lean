import GameCatalog.Proofs.Access.Confinement
import GameCatalog.Proofs.Web.Cookie
import GameCatalog.Proofs.Web.Parameter

/-!
Confinement.  At the paths that launchers use, the holder of a token that was obtained for an
edition is answered from what stands behind the token and from the clock, and from nothing else
that is stored.  Whatever access is granted, it is granted for the edition as it is stored by
then.
-/

namespace GameCatalog

open Job
open Launcher (Leads Obtained)
open Access (AlikeBehind)

namespace Route

theorem pieces?_pathOf {first : List Char} {pieces : List (List Char)}
    (whole : ∀ piece ∈ first :: pieces, ∀ character ∈ piece, character ≠ '/') :
    pieces? (pathOf (first :: pieces)) = some (first :: pieces) := by
  have cut : Split.on '/' (first ++ pathOf pieces) = first :: pieces := by
    induction pieces generalizing first with
    | nil =>
        have alone : first ++ pathOf [] = first := List.append_nil first
        rw [alone, Split.on_of_absent (whole first List.mem_cons_self)]
    | cons second pieces inductionHypothesis =>
        rw [List.forall_mem_cons] at whole
        have next : pathOf (second :: pieces) = '/' :: (second ++ pathOf pieces) := rfl
        rw [next, Split.on_append whole.1, inductionHypothesis whole.2]
  exact congrArg some cut

/-- The paths at which launchers ask for their edition, its games, one game, or one file. -/
inductive OfLauncher : List Char → Prop where
  | edition : OfLauncher "/editions/info".toList
  | games {piece : List Char} (whole : ∀ character ∈ piece, character ≠ '/') :
      OfLauncher ("/editions/".toList ++ piece ++ "/games".toList)
  | game {piece : List Char} (whole : ∀ character ∈ piece, character ≠ '/') :
      OfLauncher ("/editions/games/".toList ++ piece)
  | file {piece : List Char} (whole : ∀ character ∈ piece, character ≠ '/') :
      OfLauncher ("/editions/files/".toList ++ piece)

def launcherEndpoints : List Endpoint :=
  [.launcherEdition, .editionGames, .launcherGame, .launcherFile]

theorem mem_launcherEndpoints_iff {endpoint : Endpoint} :
    endpoint ∈ launcherEndpoints ↔ endpoint = .launcherEdition ∨ endpoint = .editionGames ∨
      endpoint = .launcherGame ∨ endpoint = .launcherFile := by
  simp [launcherEndpoints]

theorem fill?_games {piece : List Char} : ∀ route ∈ all, ∀ encoded,
    fill? route.template ["editions".toList, piece, "games".toList] = some encoded →
      ∃ endpoint ∈ launcherEndpoints, route.endpoints = [("GET", endpoint)] := by
  simp [all, fill?_literal_iff, fill?_parameter_iff, fill?_nil_iff, launcherEndpoints]

theorem fill?_gameOrFile {word : String} {piece : List Char}
    (known : word = "games" ∨ word = "files") (notKeys : piece ≠ "keys".toList) :
    ∀ route ∈ all, ∀ encoded,
      fill? route.template ["editions".toList, word.toList, piece] = some encoded →
        ∃ endpoint ∈ launcherEndpoints, route.endpoints = [("GET", endpoint)] := by
  have other : piece ≠ ['k', 'e', 'y', 's'] := notKeys
  rcases known with rfl | rfl <;>
    simp [all, fill?_literal_iff, fill?_parameter_iff, fill?_nil_iff, launcherEndpoints, other]

variable {path : List Char} {route : Route} {encoded : List (String × List Char)}

/-- What is true of every route that a path can fill is true of the route of the path. -/
theorem of_find? {first : List Char} {pieces : List (List Char)} {holds : Route → Prop}
    (whole : ∀ piece ∈ first :: pieces, ∀ character ∈ piece, character ≠ '/')
    (filled : ∀ route ∈ all, ∀ encoded, fill? route.template (first :: pieces) = some encoded →
      holds route)
    (found : find? (pathOf (first :: pieces)) = some (route, encoded)) : holds route := by
  unfold find? at found
  rw [pieces?_pathOf whole] at found
  obtain ⟨other, membership, taken⟩ := List.exists_of_findSome?_eq_some found
  obtain ⟨filling, fills, same⟩ := Option.map_eq_some_iff.mp taken
  cases same
  exact filled _ membership _ fills

theorem served_of_endpoints {endpoints : List (String × Endpoint)}
    (known : (find? path).map (·.1.endpoints) = some endpoints)
    (found : find? path = some (route, encoded)) : route.endpoints = endpoints := by
  rw [found] at known
  exact Option.some.inj known

theorem endpoints_gameOrFile {word : String} {piece : List Char} {endpoint : Endpoint}
    (known : word = "games" ∨ word = "files") (launches : endpoint ∈ launcherEndpoints)
    (ofKeys : (find? ("/editions/".toList ++ word.toList ++ "/keys".toList)).map (·.1.endpoints) =
      some [("GET", endpoint)])
    (whole : ∀ character ∈ piece, character ≠ '/')
    (found : find? ("/editions/".toList ++ word.toList ++ '/' :: piece) = some (route, encoded)) :
    ∃ endpoint ∈ launcherEndpoints, route.endpoints = [("GET", endpoint)] := by
  by_cases keys : piece = "keys".toList
  · rw [keys] at found
    exact ⟨endpoint, launches, served_of_endpoints ofKeys found⟩
  · have path_eq : "/editions/".toList ++ word.toList ++ '/' :: piece =
        pathOf ["editions".toList, word.toList, piece] := by simp [pathOf]
    rw [path_eq] at found
    apply of_find? _ (fill?_gameOrFile known keys) found
    rcases known with rfl | rfl <;> simpa using whole

theorem endpoints_of_launcher (ofLauncher : OfLauncher path)
    (found : find? path = some (route, encoded)) :
    ∃ endpoint ∈ launcherEndpoints, route.endpoints = [("GET", endpoint)] := by
  cases ofLauncher with
  | edition =>
      have known : (find? "/editions/info".toList).map (·.1.endpoints) =
          some [("GET", .launcherEdition)] := by decide +kernel
      exact ⟨_, by decide, served_of_endpoints known found⟩
  | @games piece whole =>
      have path_eq : "/editions/".toList ++ piece ++ "/games".toList =
          pathOf ["editions".toList, piece, "games".toList] := by simp [pathOf]
      rw [path_eq] at found
      exact of_find? (by simpa using whole) fill?_games found
  | game whole =>
      exact endpoints_gameOrFile (.inl rfl) (by decide : Endpoint.launcherGame ∈ _)
        (by decide +kernel) whole found
  | file whole =>
      exact endpoints_gameOrFile (.inr rfl) (by decide : Endpoint.launcherFile ∈ _)
        (by decide +kernel) whole found

theorem mem_launcherEndpoints {method : String} {endpoint : Endpoint}
    (ofLauncher : OfLauncher path) (reached : reached? path method = some (endpoint, encoded)) :
    endpoint ∈ launcherEndpoints := by
  simp only [reached?, Option.bind_eq_bind, Option.bind_eq_some_iff, Option.pure_def,
    Option.some.injEq, Prod.mk.injEq, Prod.exists] at reached
  obtain ⟨route, _, found, _, served, rfl, rfl⟩ := reached
  obtain ⟨endpoint, membership, endpoints⟩ := endpoints_of_launcher ofLauncher found
  have there := mem_endpoints_of_endpoint? served
  rw [endpoints, List.mem_singleton, Prod.mk.injEq] at there
  rw [there.2]
  exact membership

end Route

section Serving

variable {first second : World} {edition : Edition} {visit : Visit} {endpoint : Endpoint}

theorem existingGames_congr {here there : Repository} {ids : List GameId}
    (same : ∀ id ∈ ids, there.getGame id = here.getGame id) :
    Handler.existingGames there ids = Handler.existingGames here ids := by
  induction ids with
  | nil => rfl
  | cons id ids inductionHypothesis =>
      rw [List.forall_mem_cons] at same
      simp only [Handler.existingGames, same.1, inductionHypothesis same.2]

theorem findFile_congr {here there : Repository} (file : GameFileId) {ids : List GameId}
    (same : ∀ id ∈ ids, there.getGame id = here.getGame id) :
    Handler.findFile there file ids = Handler.findFile here file ids := by
  induction ids with
  | nil => rfl
  | cons id ids inductionHypothesis =>
      rw [List.forall_mem_cons] at same
      simp only [Handler.findFile, same.1, inductionHypothesis same.2]

theorem exec_ask_bind_congr {Result Next : Type}
    {question : Repository → Except StoreError Result} {next : Result → Job Failure Next}
    (same : question second.repository = question first.repository)
    (sameNext : ∀ result, (exec (next result) second).1 = (exec (next result) first).1) :
    (exec (Handler.ask question >>= next) second).1 =
      (exec (Handler.ask question >>= next) first).1 := by
  rw [exec_bind, exec_bind, Handler.exec_ask, Handler.exec_ask, same]
  cases question first.repository with
  | error error => rfl
  | ok result => exact sameNext result

theorem handleGranted_congr (launches : endpoint ∈ Route.launcherEndpoints)
    (same : ∀ game ∈ edition.gameIds,
      second.repository.getGame game = first.repository.getGame game)
    (named : endpoint = .launcherGame →
      ∃ game ∈ edition.gameIds, visit.parameters.identifier "gameID" = .ok game) :
    (exec (Gateway.handleGranted visit endpoint (.launcher edition)) second).1 =
      (exec (Gateway.handleGranted visit endpoint (.launcher edition)) first).1 := by
  rcases Route.mem_launcherEndpoints_iff.mp launches with rfl | rfl | rfl | rfl
  · rfl
  · exact exec_ask_bind_congr (existingGames_congr same) fun _ => rfl
  · obtain ⟨game, membership, named⟩ := named rfl
    unfold Gateway.handleGranted Handler.launcherGame Handler.game
    dsimp only
    rw [Handler.exec_expect_bind, Handler.exec_expect_bind, named]
    unfold Handler.loadGame
    dsimp only
    rw [bind_assoc]
    apply exec_ask_bind_congr (same game membership)
    intro found
    cases found <;> rfl
  · unfold Gateway.handleGranted Handler.launcherFile
    dsimp only
    rw [Handler.exec_expect_bind, Handler.exec_expect_bind]
    cases visit.parameters.identifier "gameFileID" with
    | error failure => rfl
    | ok file =>
        apply exec_ask_bind_congr (findFile_congr file same)
        intro found
        cases found <;> rfl

end Serving

namespace Gateway

variable (gateway : Gateway) {world : World} {other : Store} {id : EditionId} {token : String}
  {endpoint : Endpoint}

theorem scheme_of_launches (launches : endpoint ∈ Route.launcherEndpoints) :
    ∃ scheme ∈ Scheme.forLaunchers, endpoint.scheme? = some scheme ∧
      (endpoint = .launcherGame → scheme = .launcherGame) := by
  rcases Route.mem_launcherEndpoints_iff.mp launches with rfl | rfl | rfl | rfl <;>
    exact ⟨_, by decide, rfl, by decide⟩

theorem serve_alikeBehind {visit : Visit} (launches : endpoint ∈ Route.launcherEndpoints)
    (leads : Leads world.store.live token id)
    (alike : AlikeBehind id token world.store.live other.live)
    (shown : visit.request.header? "authorization" = some ("Bearer " ++ token)) :
    (exec (gateway.serve visit endpoint) { world with store := other }).1 =
      (exec (gateway.serve visit endpoint) world).1 := by
  obtain ⟨scheme, asked, protection, ofGame⟩ := scheme_of_launches launches
  have sameCheck : gateway.checked visit { world with store := other } scheme =
      gateway.checked visit world scheme := Access.check_alikeBehind asked leads alike shown
  cases passed : Grant.ofCheck (gateway.checked visit world scheme) with
  | error failure =>
      rw [exec_serve_of_refused gateway visit world protection passed]
      rw [← sameCheck] at passed
      rw [exec_serve_of_refused gateway visit _ protection passed]
  | ok grant =>
      have granted := Access.check_granted_iff.mp (ofCheck_eq_ok_iff.mp passed)
      obtain ⟨edition, rfl, launched, membership⟩ := Access.of_launcher_granted asked granted
      have known := Access.known_of_launcher leads shown launched
      rw [exec_serve_of_granted gateway visit world protection passed]
      rw [← sameCheck] at passed
      rw [exec_serve_of_granted gateway visit _ protection passed]
      apply handleGranted_congr launches
      · exact Access.getGame_alikeBehind alike known
      · intro game
        obtain ⟨game, named, member⟩ := membership (ofGame game)
        exact ⟨game, member, identifier_of_pathId named⟩

theorem respond_alikeBehind {request : Request} (ofLauncher : Route.OfLauncher request.path)
    (shown : request.header? "authorization" = some ("Bearer " ++ token))
    (leads : Leads world.store.live token id)
    (alike : AlikeBehind id token world.store.live other.live) :
    (gateway.respond request { world with store := other }).1 =
      (gateway.respond request world).1 := by
  cases reached : Route.reached? request.path request.method with
  | none =>
      rw [respond_of_answer gateway request _
          (run_answer_of_unreached gateway request _ reached),
        respond_of_answer gateway request world
          (run_answer_of_unreached gateway request world reached)]
  | some place =>
      obtain ⟨endpoint, encoded⟩ := place
      have launches := Route.mem_launcherEndpoints ofLauncher reached
      have served := gateway.serve_alikeBehind launches leads alike
        (show (visitOf request encoded).request.header? "authorization" = _ from shown)
      rw [respond_of_answer gateway request _
          ((run_answer_of_reached gateway request _ reached).trans (run_conclude _ _)),
        respond_of_answer gateway request world
          ((run_answer_of_reached gateway request world reached).trans (run_conclude world _)),
        served]

/--
Confinement of launchers to their editions.  Once a token was obtained for an edition, and
whatever was done since then and is found around by now, all that its holder is ever granted
access to is what is stored as that edition.  At the paths of launchers the holder gets the same
response from every store in which the same things stand behind the token.
-/
theorem obtained_confined (obtained : Obtained id token world) (circumstances : Circumstances) :
    let now := world.under circumstances
    (∀ scheme credentials instant edition,
      credentials.authorization = some ("Bearer " ++ token) →
      Access.check scheme now.repository credentials instant =
        .ok (.granted (.launcher edition)) →
      now.store.live.editions.get? id = some edition) ∧
    ∀ request other, Route.OfLauncher request.path →
      request.header? "authorization" = some ("Bearer " ++ token) →
      AlikeBehind id token now.store.live other.live →
      (gateway.respond request { now with store := other }).1 =
        (gateway.respond request now).1 := by
  intro now
  have leadsBefore : Leads world.store.live token id := Launcher.leads_of_obtained obtained
  have leads : Leads now.store.live token id := leadsBefore
  constructor
  · intro scheme credentials instant edition shown granted
    exact Access.edition_of_granted leads shown granted
  · intro request other ofLauncher shown alike
    exact gateway.respond_alikeBehind ofLauncher shown leads alike

/--
The key of zeros is issued and redeemed, and another edition is put in: the token opens the
edition of the key, and the response is the same if that other edition has another name.
-/
theorem obtained_confined_stocked :
    let gateway : Gateway := ⟨⟨"https://idp.example/api/v3", "gateway"⟩, ⟨"session", [], 60, true⟩, 60⟩
    let calm : Circumstances := ⟨0, 0, Faults.none, Launcher.stocked.provider, none⟩
    let issue := Launcher.Step.take Launcher.stocked calm (.generateKeys ⟨1⟩ 1)
    let redemption := Launcher.Step.take issue.after calm (.redeem 1 Launcher.zeros.key.expose)
    let spring : Edition := ⟨⟨1⟩, "", none, [], [], 0⟩
    let autumn : Edition := ⟨⟨2⟩, "Autumn", none, [], [], 0⟩
    let final := Launcher.afterActs redemption.after [(calm, .mutate (.insertEdition autumn))]
    let now := final.under calm
    let token := Launcher.zerosSession.accessToken.expose
    let other := (now.store.insertEdition { autumn with name := "Winter" }).2
    let request : Request := {
      method := "GET"
      path := "/editions/info".toList
      headers := [("authorization", Utf8.encode ("Bearer " ++ token))] }
    Obtained ⟨1⟩ token final ∧ AlikeBehind ⟨1⟩ token now.store.live other.live ∧
      Access.check .launcher now.repository { authorization := some ("Bearer " ++ token) } 500 =
        .ok (.granted (.launcher spring)) ∧
      now.store.live.editions.get? ⟨1⟩ = some spring ∧
      (gateway.respond request { now with store := other }).1 =
        (gateway.respond request now).1 := by
  intro gateway calm issue redemption spring autumn final now token other request
  have issued : issue.issued? = some (⟨1⟩, [Launcher.zeros]) := by decide +kernel
  have given : redemption.given? =
      some (Launcher.zeros.key.expose, Launcher.zerosSession) := by decide +kernel
  have obtained : Obtained ⟨1⟩ token final := by
    have issue_eq : issue = Launcher.Step.take Launcher.stocked calm (.generateKeys ⟨1⟩ 1) := rfl
    have redemption_eq : redemption = Launcher.Step.take (Launcher.afterActs issue.after []) calm
      (.redeem 1 Launcher.zeros.key.expose) := rfl
    refine .intro issue redemption issue_eq issued (List.mem_singleton_self _) redemption_eq given
      rfl ⟨?_, ?_, ?_, trivial⟩
    · have issues : Launcher.Act.issues? Launcher.stocked calm
          (.service (.generateKeys ⟨1⟩ 1)) = some (⟨1⟩, [Launcher.zeros]) := issued
      have gives : Launcher.Act.gives? Launcher.stocked calm
          (.service (.generateKeys ⟨1⟩ 1)) = none := by decide +kernel
      constructor
      · intro edition keys issuesHere
        rw [issues] at issuesHere
        cases issuesHere
        decide
      · intro session givesHere
        exact nomatch gives.symm.trans givesHere
    · have issues : Launcher.Act.issues? issue.after calm
          (.service (.redeem 1 Launcher.zeros.key.expose)) = none := by decide +kernel
      have gives : Launcher.Act.gives? issue.after calm
          (.service (.redeem 1 Launcher.zeros.key.expose)) = some Launcher.zerosSession := by
        change redemption.given?.map Prod.snd = _
        rw [given]
        rfl
      constructor
      · intro edition keys issuesHere
        exact nomatch issues.symm.trans issuesHere
      · intro session givesHere
        rw [← Option.some.inj (gives.symm.trans givesHere)]
        decide +kernel
    · constructor
      · intro edition keys issuesHere
        exact nomatch issuesHere
      · intro session givesHere
        exact nomatch givesHere
  have alike : AlikeBehind ⟨1⟩ token now.store.live other.live := by
    have same : other.live =
        now.store.live.insertEdition { autumn with name := "Winter" } := by decide +kernel
    rw [same]
    exact Access.alikeBehind_insertEdition _ _ (by decide)
  have granted : Access.check .launcher now.repository
      { authorization := some ("Bearer " ++ token) } 500 = .ok (.granted (.launcher spring)) := by
    decide +kernel
  have shown : request.header? "authorization" = some ("Bearer " ++ token) := by
    decide +kernel
  have confined := gateway.obtained_confined obtained calm
  exact ⟨obtained, alike, granted, confined.1 _ _ _ _ rfl granted,
    confined.2 request other .edition shown alike⟩

end Gateway

end GameCatalog
