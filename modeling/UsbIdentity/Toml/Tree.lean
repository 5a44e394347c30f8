import UsbIdentity.Toml.Value

/-!
# Putting tables together

A document defines tables by headers, by dotted keys and by arrays of tables, in any order. A table
that a longer header or a dotted key only mentions is implicit until it is defined; nothing is ever
defined twice.
-/

namespace UsbIdentity.Toml

inductive Tree where
  | value (value : Toml)
  /-- A table with its entries, not yet defined by a header if `implicit`, and made by a dotted key
  if `dotted`. -/
  | table (implicit dotted : Bool) (entries : List (String × Tree))
  | tables (elements : List Tree)

namespace Tree

def defined (entries : List (String × Tree)) : Tree :=
  .table false false entries

def lookup? (key : String) (entries : List (String × Tree)) : Option Tree :=
  (entries.find? (·.1 = key)).map (·.2)

def put (key : String) (tree : Tree) : List (String × Tree) → List (String × Tree)
  | [] => [(key, tree)]
  | (other, kept) :: entries =>
    if other = key then (key, tree) :: entries else (other, kept) :: put key tree entries

/-- Changes the table at the end of a path and passes on what the change returns. Missing tables on
the way are made implicitly, the last table of an array stands for the array, and a dotted key
passes only through implicit tables. -/
def descend {α : Type} (dotted : Bool) (change : Tree → Option (α × Tree)) :
    List String → Tree → Option (α × Tree)
  | [], tree => change tree
  | key :: path, .table implicit isDotted entries => do
    let (result, child) ←
      match (lookup? key entries).getD (.table true dotted []) with
      | .value _ => none
      | .tables elements => do
        let (result, last) ← descend dotted change path (← elements.getLast?)
        some (result, Tree.tables (elements.dropLast ++ [last]))
      | .table childImplicit childDotted childEntries =>
        if dotted && !childImplicit then none
        else descend dotted change path (.table childImplicit childDotted childEntries)
    some (result, .table implicit isDotted (put key child entries))
  | _, _ => none

def changeEntries {α : Type}
    (change : List (String × Tree) → Option (α × List (String × Tree))) : Tree → Option (α × Tree)
  | .table implicit dotted entries =>
    (change entries).map fun (result, entries) => (result, .table implicit dotted entries)
  | _ => none

def define? (below : Bool) (key : String) (value : Toml) : Tree → Option (Unit × Tree)
  | .table implicit dotted entries =>
    if dotted != below ∨ (lookup? key entries).isSome then none
    else some ((), .table implicit dotted (entries ++ [(key, .value value)]))
  | _ => none

def insert? (path : List String) (key : String) (value : Toml) (tree : Tree) : Option Tree :=
  (descend true (define? (!path.isEmpty) key value) path tree).map (·.2)

mutual

def toValue : Tree → Toml
  | .value found => found
  | .table _ _ entries => .table (entryValues entries)
  | .tables elements => .array (elementValues elements)

def entryValues : List (String × Tree) → List (String × Toml)
  | [] => []
  | (key, tree) :: entries => (key, toValue tree) :: entryValues entries

def elementValues : List Tree → List Toml
  | [] => []
  | tree :: trees => toValue tree :: elementValues trees

end

end Tree

inductive Place where
  | root
  | table (path : List String) (key : String)
  | element (path : List String) (key : String)

structure Assembly where
  root : Tree := .defined []
  current : Tree := .defined []
  place : Place := .root

namespace Assembly

def finish? (assembly : Assembly) : Option Tree :=
  match assembly.place with
  | .root => some assembly.current
  | .table path key =>
    (assembly.root.descend false
      (Tree.changeEntries fun entries => some ((), Tree.put key assembly.current entries))
      path).map (·.2)
  | .element path key =>
    (assembly.root.descend false
      (Tree.changeEntries fun entries =>
        match (Tree.lookup? key entries).getD (.tables []) with
        | .tables elements =>
          some ((), Tree.put key (.tables (elements ++ [assembly.current])) entries)
        | _ => none)
      path).map (·.2)

/-- Starts the table of a header. A table that was only mentioned so far keeps its entries and moves
to the end; any other must not be there yet. -/
def startTable? (assembly : Assembly) (path : List String) (key : String) : Option Assembly := do
  let (entries, root) ← (← assembly.finish?).descend false
    (Tree.changeEntries fun entries =>
      match Tree.lookup? key entries with
      | none => some ([], entries)
      | some (.table true false kept) => some (kept, entries.filter (·.1 ≠ key))
      | some _ => none)
    path
  some { root, current := .defined entries, place := .table path key }

def startElement? (assembly : Assembly) (path : List String) (key : String) : Option Assembly := do
  let ((), root) ← (← assembly.finish?).descend false
    (Tree.changeEntries fun entries =>
      match (Tree.lookup? key entries).getD (.tables []) with
      | .tables elements => some ((), Tree.put key (.tables elements) entries)
      | _ => none)
    path
  some { root, current := .defined [], place := .element path key }

def define? (assembly : Assembly) (path : List String) (key : String) (value : Toml) :
    Option Assembly :=
  (assembly.current.insert? path key value).map fun current => { assembly with current }

end Assembly

end UsbIdentity.Toml
