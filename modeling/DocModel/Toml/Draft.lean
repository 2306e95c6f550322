import DocModel.Toml.Value

/-!
# DocModel.Toml.Draft

The tables of a document while it is read. A name gets a value once; a table may be written in
several places only if it began as a part of a longer name.

* `Draft.put` gives a value to a name with dots;
* `Draft.openTable` and `Draft.openElement` are for headers.
-/

namespace DocModel
namespace Toml

/-- How a table came to be. -/
inductive Standing where
  /-- By a header of its own. -/
  | declared
  /-- By a header of a table inside it. -/
  | implied
  /-- By a name with dots. -/
  | dotted
  deriving DecidableEq, Repr

/-- What a name stands for while a document is read. -/
inductive Node where
  | value (v : Value)
  | table (standing : Standing) (entries : List (String × Node))
  /-- A list of tables, each with a header of its own. -/
  | tables (elements : List (List (String × Node)))

/-- A table while it is read. -/
structure Draft where
  /-- How it came to be. -/
  standing : Standing
  entries : List (String × Node)

/-- The entries with another node for a name, or one more at the end. -/
def setNode (name : String) (node : Node) : List (String × Node) → List (String × Node)
  | [] => [(name, node)]
  | (other, kept) :: rest =>
    if other == name then (name, node) :: rest else (other, kept) :: setNode name node rest

namespace Draft

/-- The table of a whole document before it is read. -/
def empty : Draft := { standing := .declared, entries := [] }

def node (d : Draft) : Node := .table d.standing d.entries

/-- The table with another node for a name. -/
def set (d : Draft) (name : String) (node : Node) : Draft :=
  { d with entries := setNode name node d.entries }

/-- A change of the table that names lead to. Tables on the way are made; those that were made by
their own header are not reached by a name with dots. -/
def changeAt (dotted : Bool) (change : Draft → Option Draft) : List String → Draft → Option Draft
  | [], d => change d
  | name :: names, d =>
    match d.entries.lookup name with
    | none =>
      let fresh : Draft := { standing := if dotted then .dotted else .implied, entries := [] }
      (changeAt dotted change names fresh).map fun inner => d.set name inner.node
    | some (.table standing entries) =>
      if dotted && standing = .declared then none
      else
        (changeAt dotted change names { standing, entries }).map fun inner => d.set name inner.node
    | some (.tables elements) =>
      match elements.getLast? with
      | none => none
      | some entries =>
        (changeAt dotted change names { standing := .declared, entries }).map fun inner =>
          d.set name (.tables (elements.dropLast ++ [inner.entries]))
    | some (.value _) => none

/-- A value for a name that has none. -/
def putLast (isDotted : Bool) (name : String) (v : Value) (d : Draft) : Option Draft :=
  if (d.standing == .dotted) != isDotted || (d.entries.lookup name).isSome then none
  else some (d.set name (.value v))

/-- A value for a name with dots. -/
def put (names : List String) (v : Value) (d : Draft) : Option Draft :=
  match names.getLast? with
  | none => none
  | some last =>
    let outer := names.dropLast
    changeAt true (putLast (!outer.isEmpty) last v) outer d

def openTable (names : List String) (d : Draft) : Option Draft :=
  match names.getLast? with
  | none => none
  | some last =>
    changeAt false (fun outer =>
      match outer.entries.lookup last with
      | none => some (outer.set last (.table .declared []))
      | some (.table .implied entries) => some (outer.set last (.table .declared entries))
      | some _ => none) names.dropLast d

/-- One more table of a list by its header. -/
def openElement (names : List String) (d : Draft) : Option Draft :=
  match names.getLast? with
  | none => none
  | some last =>
    changeAt false (fun outer =>
      match outer.entries.lookup last with
      | none => some (outer.set last (.tables [[]]))
      | some (.tables elements) => some (outer.set last (.tables (elements ++ [[]])))
      | some _ => none) names.dropLast d

end Draft

mutual

def Node.toValue : Node → Value
  | .value v => v
  | .table _ entries => .table (entryValues entries)
  | .tables elements => .list (elementValues elements)

/-- The values of the entries of a table. -/
def entryValues : List (String × Node) → List (String × Value)
  | [] => []
  | (name, node) :: rest => (name, node.toValue) :: entryValues rest

/-- The values of a list of tables. -/
def elementValues : List (List (String × Node)) → List Value
  | [] => []
  | entries :: rest => .table (entryValues entries) :: elementValues rest

end

def Draft.values (d : Draft) : List (String × Value) := entryValues d.entries

end Toml
end DocModel
