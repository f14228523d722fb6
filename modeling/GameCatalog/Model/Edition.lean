import GameCatalog.Inspect
import GameCatalog.Json.Record
import GameCatalog.Json.Value
import GameCatalog.Time

/-!
Editions: the selections of games that are given out together, for instance at one
event.
-/

namespace GameCatalog

structure Edition where
  id : EditionId
  name : String
  /-- Where players are asked for their opinion. -/
  questionnaireUrl : Option String
  /-- The games, in the order in which they are presented. -/
  gameIds : List GameId
  /-- The users who may look at the edition. -/
  managers : List UserId
  createdAt : Instant
  deriving DecidableEq

namespace Edition

def toJson (edition : Edition) : Json :=
  .object <|
    [("id", .text edition.id.toText), ("name", .text edition.name)] ++
    Json.member? "questionnaire_url" .text edition.questionnaireUrl ++
    [("game_ids", .array (edition.gameIds.map fun id => .text id.toText)),
      ("managers", .array (edition.managers.map fun id => .text id.toText)),
      ("created_at", .natural edition.createdAt.toNat)]

def form : Json.Record Edition :=
  Edition.mk <$> .required "id" .identifier <*> .required "name" .text <*>
    .optional "questionnaire_url" .text <*> .withDefault "game_ids" (.list .identifier) [] <*>
    .withDefault "managers" (.list .identifier) [] <*> .required "created_at" .natural

def decoder : Json.Decoder Edition := form.decoder

def inspect (edition : Edition) : String :=
  Inspect.record "Edition"
    [("id", edition.id.inspect), ("name", Inspect.text edition.name),
      ("questionnaire_url", Inspect.optional Inspect.text edition.questionnaireUrl),
      ("game_ids", Inspect.list Id.inspect edition.gameIds),
      ("managers", Inspect.list Id.inspect edition.managers),
      ("created_at", Inspect.natural edition.createdAt.toNat)]

end Edition

end GameCatalog
