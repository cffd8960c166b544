/-! The tables of a settings document: what has been defined where, and which definitions may follow
one another. -/

namespace ForeignCall

namespace Toml

/-- A value. Only the kinds that settings have keep their content. -/
inductive Value
  | text (value : String)
  | integer (value : Int)
  | boolean (value : Bool)
  | other
  deriving DecidableEq

inductive Step
  | key (name : String)
  /-- A table in an array of tables. -/
  | element (index : Nat)
  deriving DecidableEq

abbrev Place := List Step

inductive Definition
  | value (value : Value)
  /-- A table with a header of its own. -/
  | header
  /-- A table on the way to a header. -/
  | implied
  /-- A table on the way to a dotted key. -/
  | dotted
  /-- An array of tables. -/
  | elements (count : Nat)
  deriving DecidableEq

abbrev Definitions := List (Place × Definition)

namespace Definitions

/-- Goes from a table through the tables on a path, which are made where there are none. Dotted keys
do not lead into a table with a header. -/
def descend (definitions : Definitions) (dotted : Bool) (table : Place) :
    List String → Option (Place × Definitions)
  | [] => some (table, definitions)
  | name :: rest =>
    let here := table ++ [.key name]
    match definitions.lookup here with
    | none =>
      descend ((here, if dotted then .dotted else .implied) :: definitions) dotted here rest
    | some (.value _) => none
    | some .header => if dotted then none else descend definitions dotted here rest
    | some (.elements count) => descend definitions dotted (here ++ [.element (count - 1)]) rest
    | some _ => descend definitions dotted here rest

/-- Defines a value under a path from a table. The path may lead only through tables of dotted
keys in the end, and the place must be free. -/
def assign (definitions : Definitions) (table : Place) (path : List String) (value : Value) :
    Option Definitions := do
  let name ← path.getLast?
  let (parent, definitions) ← definitions.descend true table path.dropLast
  let here := parent ++ [.key name]
  if (parent = table ∨ definitions.lookup parent = some .dotted) ∧ definitions.lookup here = none
  then some ((here, .value value) :: definitions)
  else none

def openTable (definitions : Definitions) (path : List String) : Option (Place × Definitions) := do
  let name ← path.getLast?
  let (parent, definitions) ← definitions.descend false [] path.dropLast
  let here := parent ++ [.key name]
  match definitions.lookup here with
  | none | some .implied => some (here, (here, .header) :: definitions)
  | _ => none

def openElement (definitions : Definitions) (path : List String) :
    Option (Place × Definitions) := do
  let name ← path.getLast?
  let (parent, definitions) ← definitions.descend false [] path.dropLast
  let here := parent ++ [.key name]
  match definitions.lookup here with
  | none => some (here ++ [.element 0], (here, .elements 1) :: definitions)
  | some (.elements count) =>
    some (here ++ [.element count], (here, .elements (count + 1)) :: definitions)
  | _ => none

end Definitions

end Toml

end ForeignCall
