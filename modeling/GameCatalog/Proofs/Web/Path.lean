import GameCatalog.Model.ProductKey
import GameCatalog.Web.Route
import Mathlib.Data.List.Basic

/-!
The paths that lead to an endpoint.  A path is the slash-led sequence of its pieces, and a
route takes exactly the paths whose pieces are those of its template with something in the
place of each parameter.
-/

namespace GameCatalog.Route

def pathOf (pieces : List (List Char)) : List Char :=
  pieces.flatMap ('/' :: ·)

theorem pathOf_split (rest : List Char) : pathOf (Split.on '/' rest) = '/' :: rest := by
  induction rest with
  | nil => rfl
  | cons character rest inductionHypothesis =>
      by_cases slash : character = '/'
      · subst slash
        simpa [Split.on, pathOf] using inductionHypothesis
      · cases split : Split.on '/' rest with
        | nil => simp [split, pathOf] at inductionHypothesis
        | cons piece pieces =>
            simp only [split, pathOf, List.flatMap_cons, List.cons_append, List.cons.injEq,
              true_and] at inductionHypothesis
            simp [Split.on, slash, split, pathOf, inductionHypothesis]

theorem pathOf_of_pieces? {path : List Char} {pieces : List (List Char)}
    (cut : pieces? path = some pieces) : pathOf pieces = path := by
  unfold pieces? at cut
  split at cut
  · rename_i rest
    cases cut
    exact pathOf_split rest
  · contradiction

theorem fill?_literal_iff {text : String} {template : List Piece} {pieces : List (List Char)}
    {encoded : List (String × List Char)} :
    fill? (.literal text :: template) pieces = some encoded ↔
      ∃ rest, pieces = text.toList :: rest ∧ fill? template rest = some encoded := by
  cases pieces with
  | nil => simp [fill?]
  | cons piece rest =>
      by_cases same : piece = text.toList
      · simp [fill?, same]
      · simp [fill?, same]

theorem fill?_parameter_iff {name : String} {template : List Piece}
    {pieces : List (List Char)} {encoded : List (String × List Char)} :
    fill? (.parameter name :: template) pieces = some encoded ↔
      ∃ piece rest later, pieces = piece :: rest ∧ encoded = (name, piece) :: later ∧
        (template = [] → piece ≠ []) ∧ fill? template rest = some later := by
  cases pieces with
  | nil => simp [fill?]
  | cons piece rest =>
      by_cases short : template = [] ∧ piece = []
      · simp [fill?, short]
      · have full : (template.isEmpty && piece.isEmpty) = false := by
          simpa using short
        have needed : template = [] → piece ≠ [] := fun last nothing => short ⟨last, nothing⟩
        simp only [fill?, full, Bool.false_eq_true, if_false, Option.map_eq_some_iff,
          List.cons.injEq]
        constructor
        · rintro ⟨later, filled, rfl⟩
          exact ⟨piece, rest, later, ⟨rfl, rfl⟩, rfl, needed, filled⟩
        · rintro ⟨_, _, later, ⟨rfl, rfl⟩, rfl, -, filled⟩
          exact ⟨later, filled, rfl⟩

theorem fill?_nil_iff {pieces : List (List Char)} {encoded : List (String × List Char)} :
    fill? [] pieces = some encoded ↔ pieces = [] ∧ encoded = [] := by
  cases pieces with
  | nil => simp [fill?, eq_comm]
  | cons piece rest => simp [fill?]

/-- The method and the template that lead to an endpoint. -/
def place? (endpoint : Endpoint) : Option (String × List Piece) :=
  all.findSome? fun route =>
    (route.endpoints.find? (·.2 = endpoint)).map fun entry => (entry.1, route.template)

/-- No two routes lead to one endpoint. -/
theorem place?_of_mem : ∀ route ∈ all, ∀ entry ∈ route.endpoints,
    place? entry.2 = some (entry.1, route.template) := by
  decide

theorem mem_endpoints_of_endpoint? {route : Route} {method : String} {endpoint : Endpoint}
    (served : route.endpoint? method = some endpoint) :
    ((if method = "HEAD" then "GET" else method), endpoint) ∈ route.endpoints := by
  obtain ⟨before, after, split, -⟩ := List.lookup_eq_some_iff.mp served
  rw [split]
  simp

/-- The endpoint that a request reaches, and the encoded parameters of its path. -/
def reached? (path : List Char) (method : String) :
    Option (Endpoint × List (String × List Char)) := do
  let (route, encoded) ← find? path
  let endpoint ← route.endpoint? method
  return (endpoint, encoded)

variable {path : List Char} {method : String} {endpoint : Endpoint}
  {encoded : List (String × List Char)}

theorem place?_of_reached? (reached : reached? path method = some (endpoint, encoded)) :
    ∃ template pieces,
      place? endpoint = some ((if method = "HEAD" then "GET" else method), template) ∧
      pathOf pieces = path ∧ fill? template pieces = some encoded := by
  simp only [reached?, find?, Option.bind_eq_bind, Option.bind_eq_some_iff, Option.pure_def,
    Option.some.injEq, Prod.mk.injEq, Prod.exists] at reached
  obtain ⟨route, encoded, ⟨pieces, cut, matched⟩, endpoint, served, rfl, rfl⟩ := reached
  obtain ⟨route, membership, filled⟩ := List.exists_of_findSome?_eq_some matched
  simp only [Option.map_eq_some_iff, Prod.mk.injEq] at filled
  obtain ⟨_, filled, rfl, rfl⟩ := filled
  have placed := place?_of_mem route membership _ (mem_endpoints_of_endpoint? served)
  exact ⟨route.template, pieces, placed, pathOf_of_pieces? cut, filled⟩

/-- A request that reaches an endpoint comes to the place of that endpoint. -/
theorem of_place {expected : String} {template : List Piece}
    (reached : reached? path method = some (endpoint, encoded))
    (place : place? endpoint = some (expected, template)) (written : expected ≠ "GET") :
    method = expected ∧ ∃ pieces, pathOf pieces = path ∧ fill? template pieces = some encoded := by
  obtain ⟨_, pieces, placed, cut, filled⟩ := place?_of_reached? reached
  simp only [place, Option.some.injEq, Prod.mk.injEq] at placed
  obtain ⟨served, rfl⟩ := placed
  refine ⟨?_, pieces, cut, filled⟩
  split at served
  · exact absurd served written
  · exact served.symm

theorem reached?_metrics (reached : reached? path method = some (.metrics, encoded)) :
    path = "/metrics".toList := by
  have place : place? .metrics = some ("GET", [.literal "metrics"]) := by
    decide
  obtain ⟨template, pieces, placed, rfl, filled⟩ := place?_of_reached? reached
  simp only [place, Option.some.injEq, Prod.mk.injEq] at placed
  obtain ⟨-, rfl⟩ := placed
  simp only [fill?_literal_iff, fill?_nil_iff] at filled
  obtain ⟨_, rfl, rfl, -⟩ := filled
  simp [pathOf]

theorem reached?_redeem (reached : reached? path method = some (.redeem, encoded)) :
    method = "POST" ∧ path = "/editions/authorize".toList := by
  have place : place? .redeem =
      some ("POST", [.literal "editions", .literal "authorize"]) := by
    decide
  obtain ⟨served, pieces, rfl, filled⟩ := of_place reached place (by decide)
  simp only [fill?_literal_iff, fill?_nil_iff] at filled
  obtain ⟨_, rfl, _, rfl, rfl, -⟩ := filled
  exact ⟨served, by simp [pathOf]⟩

theorem reached?_generateKeys (reached : reached? path method = some (.generateKeys, encoded)) :
    method = "POST" ∧ ∃ edition, encoded = [("editionID", edition)] ∧
      path = "/editions/".toList ++ edition ++ "/keys".toList := by
  have place : place? .generateKeys =
      some ("POST", [.literal "editions", .parameter "editionID", .literal "keys"]) := by
    decide
  obtain ⟨served, pieces, rfl, filled⟩ := of_place reached place (by decide)
  simp only [fill?_literal_iff, fill?_parameter_iff, fill?_nil_iff] at filled
  obtain ⟨_, rfl, edition, _, _, rfl, rfl, -, _, rfl, rfl, rfl⟩ := filled
  exact ⟨served, edition, rfl, by simp [pathOf]⟩

def switchEndpoint : KeyStatus → Endpoint
  | .active => .activateKey
  | .inactive => .revokeKey

def switchWord : KeyStatus → String
  | .active => "activate"
  | .inactive => "revoke"

theorem reached?_switch {status : KeyStatus}
    (reached : reached? path method = some (switchEndpoint status, encoded)) :
    method = "POST" ∧ ∃ edition key,
      encoded = [("editionID", edition), ("productKeyID", key)] ∧
      path = "/editions/".toList ++ edition ++ "/keys/".toList ++ key ++
        '/' :: (switchWord status).toList := by
  have place : place? (switchEndpoint status) =
      some ("POST", [.literal "editions", .parameter "editionID", .literal "keys",
        .parameter "productKeyID", .literal (switchWord status)]) := by
    cases status <;> decide
  obtain ⟨served, pieces, rfl, filled⟩ := of_place reached place (by decide)
  simp only [fill?_literal_iff, fill?_parameter_iff, fill?_nil_iff] at filled
  obtain ⟨_, rfl, edition, _, _, rfl, rfl, -, _, rfl, key, _, _, rfl, rfl, -, _, rfl, rfl, rfl⟩ :=
    filled
  exact ⟨served, edition, key, rfl, by simp [pathOf]⟩

theorem reached?_updateVisibility
    (reached : reached? path method = some (.updateVisibility, encoded)) :
    method = "PATCH" ∧ ∃ game, encoded = [("gameID", game)] ∧
      path = "/games/".toList ++ game ++ "/visibility".toList := by
  have place : place? .updateVisibility =
      some ("PATCH", [.literal "games", .parameter "gameID", .literal "visibility"]) := by
    decide
  obtain ⟨served, pieces, rfl, filled⟩ := of_place reached place (by decide)
  simp only [fill?_literal_iff, fill?_parameter_iff, fill?_nil_iff] at filled
  obtain ⟨_, rfl, game, _, _, rfl, rfl, -, _, rfl, rfl, rfl⟩ := filled
  exact ⟨served, game, rfl, by simp [pathOf]⟩

end GameCatalog.Route
