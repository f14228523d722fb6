/-!
The ways in which octets fail to be the JSON form of a value.  When a text has
several, the first one met from left to right is the one reported.
-/

namespace GameCatalog.Json

/-- Why a text cannot be read as the value wanted. -/
inductive Fault where
  /-- The text is not JSON. -/
  | malformed
  /-- The text is JSON, but not of the kind of value wanted. -/
  | mismatched
  | truncated
  deriving DecidableEq, Repr

end GameCatalog.Json
