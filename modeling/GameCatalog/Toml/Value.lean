/-!
The values of a TOML document.  Floats and dates are recognised but not kept, since no
setting has such a value.
-/

namespace GameCatalog.Toml

inductive Value where
  | text (value : String)
  | integer (value : Int)
  | float
  | boolean (value : Bool)
  | dateTime
  | array (items : List Value)
  | table (members : List (String × Value))
  deriving Inhabited, Repr

namespace Value

def text? : Value → Option String
  | text value => some value
  | _ => none

def boolean? : Value → Option Bool
  | boolean value => some value
  | _ => none

/-- The natural number below 2^64 that a value is. -/
def natural? : Value → Option UInt64
  | integer value =>
      if 0 ≤ value ∧ value < UInt64.size then some (UInt64.ofNat value.toNat) else none
  | _ => none

/-- What stands under each of the names: the members of a table, or the items of an array in order. -/
def fields? (names : List String) : Value → Option (List (String × Value))
  | table members => some members
  | array items => some (names.zip items)
  | _ => none

end Value

end GameCatalog.Toml
