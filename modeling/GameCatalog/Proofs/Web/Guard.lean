import GameCatalog.Proofs.Access.Admission
import GameCatalog.Proofs.Web.Parameter

/-!
When the guard fails.  As long as nothing fails to be looked up, the guard comes to a decision
unless the parameter that its scheme reads is missing, and it is missing exactly when some
parameter of the path is no text.
-/

namespace GameCatalog

namespace Route

/-- The names of the parameters of a template, in order. -/
def parameterNames (template : List Piece) : List String :=
  template.filterMap fun piece =>
    match piece with
    | .literal _ => none
    | .parameter name => some name

theorem map_fst_of_fill? {template : List Piece} {pieces : List (List Char)}
    {encoded : List (String × List Char)} (filled : fill? template pieces = some encoded) :
    encoded.map Prod.fst = parameterNames template := by
  induction template generalizing pieces encoded with
  | nil =>
      obtain ⟨-, rfl⟩ := fill?_nil_iff.mp filled
      rfl
  | cons piece template inductionHypothesis =>
      cases piece with
      | literal text =>
          obtain ⟨rest, -, filledRest⟩ := fill?_literal_iff.mp filled
          exact inductionHypothesis filledRest
      | parameter name =>
          obtain ⟨piece, rest, later, -, rfl, -, filledRest⟩ := fill?_parameter_iff.mp filled
          exact congrArg (name :: ·) (inductionHypothesis filledRest)

theorem mem_parameterNames_of_scheme : ∀ route ∈ all, ∀ entry ∈ route.endpoints,
    ((entry.2.scheme?.bind Scheme.parameter?).all fun parameter =>
      (parameterNames route.template).contains parameter.2) = true := by
  decide

theorem parameterNames_of_reached {path : List Char} {method : String} {endpoint : Endpoint}
    {encoded : List (String × List Char)} {scheme : Scheme} {entity : Entity} {name : String}
    (reached : reached? path method = some (endpoint, encoded))
    (protection : endpoint.scheme? = some scheme)
    (read : scheme.parameter? = some (entity, name)) :
    name ∈ encoded.map Prod.fst := by
  simp only [reached?, find?, Option.bind_eq_bind, Option.bind_eq_some_iff, Option.pure_def,
    Option.some.injEq, Prod.mk.injEq, Prod.exists] at reached
  obtain ⟨route, encoded, ⟨pieces, -, matched⟩, endpoint, served, rfl, rfl⟩ := reached
  obtain ⟨route, membership, filled⟩ := List.exists_of_findSome?_eq_some matched
  simp only [Option.map_eq_some_iff, Prod.mk.injEq] at filled
  obtain ⟨_, filled, rfl, rfl⟩ := filled
  have named := mem_parameterNames_of_scheme route membership _
    (mem_endpoints_of_endpoint? served)
  rw [protection, Option.bind_some, read, Option.all_some, List.contains_iff_mem] at named
  rwa [map_fst_of_fill? filled]

theorem lookup_decodeParameters? {name : String} {encoded : List (String × List Char)}
    {texts : List (String × String)} (decoded : decodeParameters? encoded = some texts)
    (membership : name ∈ encoded.map Prod.fst) : ∃ text, texts.lookup name = some text := by
  induction encoded generalizing texts with
  | nil => simp at membership
  | cons parameter rest inductionHypothesis =>
      obtain ⟨first, piece⟩ := parameter
      simp only [decodeParameters?, List.mapM_cons, Option.pure_def, Option.bind_eq_bind,
        Option.bind_eq_some_iff, Option.map_eq_some_iff, Option.some.injEq] at decoded
      obtain ⟨_, ⟨firstText, -, rfl⟩, laterTexts, later, rfl⟩ := decoded
      by_cases same : name = first
      · exact ⟨firstText, by rw [same, List.lookup_cons_self]⟩
      · have different : (name == first) = false := by simpa using same
        simp only [List.map_cons, List.mem_cons, same, false_or] at membership
        obtain ⟨text, found⟩ := inductionHypothesis later membership
        exact ⟨text, by rw [List.lookup_cons, different]; exact found⟩

end Route

theorem ApiError.status_ofDenial_ne (denial : Denial) : (ofDenial denial).status ≠ 500 := by
  cases denial <;> simp [ofDenial, status]

namespace Gateway

variable (gateway : Gateway) (request : Request) (world : World) {endpoint : Endpoint}
  {scheme : Scheme} {encoded : List (String × List Char)}

theorem respond_of_refused
    (reached : Route.reached? request.path request.method = some (endpoint, encoded))
    (protection : endpoint.scheme? = some scheme) {failure : Failure}
    (refused : Grant.ofCheck (gateway.checked (visitOf request encoded) world scheme) =
      .error failure) :
    (gateway.respond request world).1 = finalize request failure.toResponse := by
  have served := exec_serve_of_refused gateway (visitOf request encoded) world protection refused
  have answered := (run_answer_of_reached gateway request world reached).trans
    (run_conclude world _)
  rw [respond_of_answer gateway request world answered, served]
  rfl

theorem respond_of_failed
    (reached : Route.reached? request.path request.method = some (endpoint, encoded))
    (protection : endpoint.scheme? = some scheme) {error : CheckError}
    (failed : gateway.checked (visitOf request encoded) world scheme = .error error) :
    (gateway.respond request world).1.status = 500 := by
  have refused : Grant.ofCheck (gateway.checked (visitOf request encoded) world scheme) =
      .error (.api (.ofCheck error)) := by
    rw [failed]
    rfl
  rw [respond_of_refused gateway request world reached protection refused, finalize_status]
  rfl

theorem respond_of_denied
    (reached : Route.reached? request.path request.method = some (endpoint, encoded))
    (protection : endpoint.scheme? = some scheme) {denial : Denial}
    (denied : gateway.checked (visitOf request encoded) world scheme = .ok (.denied denial)) :
    (gateway.respond request world).1 =
      finalize request (ApiError.ofDenial denial).toResponse := by
  have refused : Grant.ofCheck (gateway.checked (visitOf request encoded) world scheme) =
      .error (.api (.ofDenial denial)) := by
    rw [denied]
    rfl
  exact respond_of_refused gateway request world reached protection refused

theorem checked_fails_iff
    (reached : Route.reached? request.path request.method = some (endpoint, encoded))
    (protection : endpoint.scheme? = some scheme)
    (works : ∀ operation, world.repository.faults operation = none) :
    (∃ error, gateway.checked (visitOf request encoded) world scheme = .error error) ↔
      scheme.parameter?.isSome = true ∧
        Access.Admitted scheme world.store.live (gateway.credentials (visitOf request encoded))
          world.clock ∧
        Route.decodeParameters? encoded = none := by
  simp only [Gateway.checked, Access.check_error_iff]
  cases read : scheme.parameter? with
  | none =>
      have settled := @Access.settled_decide _ (gateway.credentials (visitOf request encoded))
        world.clock works _ read
      simpa [Access.Settled] using settled
  | some parameter =>
      obtain ⟨entity, name⟩ := parameter
      have needs := @Access.needs_decide _ (gateway.credentials (visitOf request encoded))
        world.clock works _ _ _ read
      have named := Route.parameterNames_of_reached reached protection read
      simp only [needs.failed_iff, Option.isSome_some, true_and, exists_eq_left]
      refine and_congr Iff.rfl ?_
      simp only [credentials, visitOf]
      cases decoded : Route.decodeParameters? encoded with
      | none => simp
      | some texts =>
          obtain ⟨text, found⟩ := Route.lookup_decodeParameters? decoded named
          simp [found]

theorem respond_of_misspelled
    (reached : Route.reached? request.path request.method = some (endpoint, encoded))
    (protection : endpoint.scheme? = some scheme)
    (works : ∀ operation, world.repository.faults operation = none) {entity : Entity}
    {name text : String} {texts : List (String × String)}
    (read : scheme.parameter? = some (entity, name))
    (decoded : Route.decodeParameters? encoded = some texts) (found : texts.lookup name = some text)
    (admission : Access.Admitted scheme world.store.live
      (gateway.credentials (visitOf request encoded)) world.clock)
    (misspelled : (Id.ofText? text : Option (Id entity)) = none) :
    (gateway.respond request world).1 =
      finalize request (ApiError.badRequest ("invalid " ++ name)).toResponse := by
  have needs := @Access.needs_decide _ (gateway.credentials (visitOf request encoded))
    world.clock works _ _ _ read
  have seen : (gateway.credentials (visitOf request encoded)).parameters.lookup name =
      some text := by
    simp only [credentials, visitOf, decoded]
    exact found
  have denied : gateway.checked (visitOf request encoded) world scheme =
      .ok (.denied (.invalidRequest ("invalid " ++ name))) :=
    Access.check_denied_iff.mpr (needs.malformed admission text seen misspelled)
  exact respond_of_denied gateway request world reached protection denied

/--
What the guard does when nothing fails to be looked up.  It fails exactly when its scheme reads a
parameter, those who ask are admitted, and some parameter of the path is no text; the response
then reports a failure of the gateway.  Whoever is denied is told so by another status.  If the
parameters are text, then the one that the scheme reads is there, and those who are admitted and
whose parameter is not an identifier are told that it is invalid.
-/
theorem guard_fails_iff_unreadable
    (reached : Route.reached? request.path request.method = some (endpoint, encoded))
    (protection : endpoint.scheme? = some scheme)
    (works : ∀ operation, world.faults operation = none) :
    let visit := visitOf request encoded
    let checked := gateway.checked visit world scheme
    let response := (gateway.respond request world).1
    let admitted :=
      Access.Admitted scheme world.store.live (gateway.credentials visit) world.clock
    ((∃ error, checked = .error error) ↔
      scheme.parameter?.isSome = true ∧ admitted ∧ Route.decodeParameters? encoded = none) ∧
    (∀ error, checked = .error error → response.status = 500) ∧
    (∀ denial, checked = .ok (.denied denial) →
      response = finalize request (ApiError.ofDenial denial).toResponse ∧
        response.status ≠ 500) ∧
    ∀ entity name, scheme.parameter? = some (entity, name) →
      ∀ texts, Route.decodeParameters? encoded = some texts →
        ∃ text, texts.lookup name = some text ∧
          (admitted → (Id.ofText? text : Option (Id entity)) = none →
            response = finalize request (ApiError.badRequest ("invalid " ++ name)).toResponse) := by
  intro visit checked response admitted
  have worksThere : ∀ operation, world.repository.faults operation = none := works
  refine ⟨checked_fails_iff gateway request world reached protection worksThere, ?_, ?_, ?_⟩
  · intro error failed
    exact respond_of_failed gateway request world reached protection failed
  · intro denial denied
    have told := respond_of_denied gateway request world reached protection denied
    refine ⟨told, ?_⟩
    simp only [response, told, finalize_status]
    exact ApiError.status_ofDenial_ne denial
  · intro entity name read texts decoded
    have named := Route.parameterNames_of_reached reached protection read
    obtain ⟨text, found⟩ := Route.lookup_decodeParameters? decoded named
    refine ⟨text, found, fun admission misspelled => ?_⟩
    exact respond_of_misspelled gateway request world reached protection worksThere read decoded
      found admission misspelled

def blank : Gateway := ⟨⟨"https://idp.example/api/v3", "gateway"⟩, ⟨"session", [], 60, true⟩, 60⟩

def nowhere : World where
  store := ⟨.empty, {}⟩
  clock := 0
  symbols := ⟨[], 0⟩
  identifiers := ⟨[], 0⟩
  provider := ⟨fun _ _ => .error .invalidSession, fun _ => .error .invalidSession,
    fun _ => .error .invalidSession⟩

theorem guard_fails_iff_unreadable_slash :
    let request : Request := { method := "GET", path := "/games/1%2F2".toList }
    let encoded := [("gameID", "1%2F2".toList)]
    Route.reached? request.path request.method = some (.game, encoded) ∧
      (∀ operation, nowhere.faults operation = none) ∧
      Route.decodeParameters? encoded = some [("gameID", "1/2")] ∧
      (blank.respond request nowhere).1 =
        finalize request (ApiError.badRequest "invalid gameID").toResponse := by
  intro request encoded
  have reached : Route.reached? request.path request.method = some (.game, encoded) := by
    decide +kernel
  have decoded : Route.decodeParameters? encoded = some [("gameID", "1/2")] := by
    decide +kernel
  have works : ∀ operation, nowhere.faults operation = none := fun _ => rfl
  have classified := guard_fails_iff_unreadable blank request nowhere reached rfl works
  obtain ⟨text, found, told⟩ := classified.2.2.2 .game "gameID" rfl _ decoded
  cases found
  exact ⟨reached, works, decoded, told trivial (by decide +kernel)⟩

/--
A piece of a path that is no text is not reported as invalid: anyone who asks for the game makes
the guard fail.
-/
theorem guard_fails_at_stray_octet :
    let request : Request := { method := "GET", path := "/games/%FF".toList }
    let encoded := [("gameID", "%FF".toList)]
    Route.reached? request.path request.method = some (.game, encoded) ∧
      Endpoint.game.scheme? = some .gameInfo ∧
      (∀ operation, nowhere.faults operation = none) ∧
      blank.checked (visitOf request encoded) nowhere .gameInfo =
        .error (.missingParameter "gameID") ∧
      (blank.respond request nowhere).1.status = 500 :=
  ⟨by decide +kernel, rfl, fun _ => rfl, by decide +kernel, by decide +kernel⟩

end Gateway

end GameCatalog
