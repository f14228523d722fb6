import GameCatalog.Toml.Value

/-!
Tables under construction.  A table can come into being by a header of its own, by a
header for something inside it, or by a dotted key; how it did decides whether it may
still be extended.  A table that has its own header cannot get another one, nor can a
dotted key add to it.
-/

namespace GameCatalog.Toml

/-- How a table came into being. -/
inductive Origin where
  /-- By a header of its own. -/
  | header
  | inner
  | dotted
  deriving DecidableEq, Repr

inductive Node where
  /-- A value that nothing can be added to. -/
  | closed (value : Value)
  | table (origin : Origin) (members : List (String × Node))
  /-- An array of tables, of which the last one is under construction. -/
  | tables (earlier : List (List (String × Node))) (last : List (String × Node))
  deriving Inhabited

abbrev Members := List (String × Node)

namespace Members

/-- The members with a node under a name, in place of the one that is there. -/
def replace (members : Members) (name : String) (node : Node) : Members :=
  members.map fun member => if member.1 = name then (name, node) else member

def add? (members : Members) (name : String) (node : Node) : Option Members :=
  if (members.lookup name).isSome then none else some (members ++ [(name, node)])

/--
Changes the table at the end of a path.  Tables that are missing on the way are made;
of an array of tables, the last one is meant.
-/
def descend? (dotted : Bool) (change : Origin → Members → Option Members) :
    (path : List String) → Origin → Members → Option Members
  | [], origin, members => change origin members
  | name :: path, _, members =>
      match members.lookup name with
      | none => do
          let origin := if dotted then .dotted else .inner
          let made ← descend? dotted change path origin []
          return members ++ [(name, .table origin made)]
      | some (.table origin inside) =>
          if dotted && origin = .header then none
          else do
            let changed ← descend? dotted change path origin inside
            return members.replace name (.table origin changed)
      | some (.tables earlier last) => do
          let changed ← descend? dotted change path .header last
          return members.replace name (.tables earlier changed)
      | some (.closed _) => none

def assign? (members : Members) (path : List String) (value : Value) : Option Members := do
  let name ← path.getLast?
  let front := path.dropLast
  let put (origin : Origin) (members : Members) : Option Members :=
    if (origin == .dotted) == front.isEmpty then none else members.add? name (.closed value)
  descend? true put front .header members

def assignAll? (members : Members) (assignments : List (List String × Value)) :
    Option Members :=
  assignments.foldlM (fun members assignment => members.assign? assignment.1 assignment.2)
    members

end Members

mutual

def Node.value : Node → Value
  | .closed value => value
  | .table _ members => .table (memberValues members)
  | .tables earlier last => .array (elementValues earlier ++ [.table (memberValues last)])

def memberValues : List (String × Node) → List (String × Value)
  | [] => []
  | (name, node) :: rest => (name, node.value) :: memberValues rest

def elementValues : List (List (String × Node)) → List Value
  | [] => []
  | members :: rest => .table (memberValues members) :: elementValues rest

end

end GameCatalog.Toml
