import DomainFlow.Toml.Basic

/-!
# Tables of TOML

The statements of a document build up a tree of tables. A table comes about by a header of its own,
as the parent in a header of another table, or by a dotted key, and this decides how it may be
extended: a header may follow a mention as parent, a dotted key may only extend what dotted keys
made, and nothing is given twice.

## Main definitions

* `TableTree`: a document under construction
* `TableTree.put`: gives the value of a dotted key
* `TableTree.openTable`, `TableTree.openElement`: the effect of headers
* `TableTree.toToml`: the value of the finished tree
-/

namespace DomainFlow

/-- **How a table came about.** -/
inductive TableOrigin
  | header
  /-- As the parent in the header of another table. -/
  | parent
  | dottedKey
  deriving DecidableEq

/-- **A document under construction**, or a part of it. -/
inductive TableTree
  | leaf (value : Toml)
  | table (origin : TableOrigin) (entries : List (String × TableTree))
  /-- The elements of an array of tables, last first. -/
  | elements (tables : List (List (String × TableTree)))

namespace TableTree

/-- The entries of a table under construction. -/
abbrev Entries := List (String × TableTree)

/-- Changes the part at a key, or adds it; `f` may refuse. -/
def change (key : String) (f : Option TableTree → Option TableTree) : Entries → Option Entries
  | [] => (f none).map fun part => [(key, part)]
  | (k, part) :: rest =>
    if k = key then (f (some part)).map fun part => (k, part) :: rest
    else (change key f rest).map ((k, part) :: ·)

/-- **Changes the entries of the table that a path leads to.** The tables on the way come about as
needed. The last element stands for an array of tables. A dotted key does not enter a table that has
a header. -/
def within (dotted : Bool) (f : TableOrigin → Entries → Option Entries) :
    List String → TableOrigin → Entries → Option Entries
  | [], origin, entries => f origin entries
  | key :: path, _, entries =>
    change key (fun
      | none =>
        let origin := if dotted then .dottedKey else .parent
        (within dotted f path origin []).map (.table origin)
      | some (.table origin entries) =>
        if dotted ∧ origin = .header then none
        else (within dotted f path origin entries).map (.table origin)
      | some (.elements (last :: others)) =>
        (within dotted f path .header last).map fun last => .elements (last :: others)
      | some (.elements []) | some (.leaf _) => none) entries

/-- Gives the value of a key in a table. A dotted key ends in a table that dotted keys made, a plain
one in any other. -/
def putHere (isDotted : Bool) (key : String) (value : Toml) (origin : TableOrigin)
    (entries : Entries) : Option Entries :=
  if isDotted = decide (origin = .dottedKey) then
    change key (fun
      | none => some (.leaf value)
      | some _ => none) entries
  else none

/-- **Gives the value of a dotted key** in a table. -/
def put (path : List String) (key : String) (value : Toml) :
    TableOrigin → Entries → Option Entries :=
  within true (putHere (!path.isEmpty) key value) path

/-- **The effect of the header of a table.** -/
def openTable (path : List String) (key : String) : TableOrigin → Entries → Option Entries :=
  within false (fun _ => change key fun
    | none => some (.table .header [])
    | some (.table .parent entries) => some (.table .header entries)
    | some _ => none) path

/-- **The effect of the header of an element of an array of tables.** -/
def openElement (path : List String) (key : String) : TableOrigin → Entries → Option Entries :=
  within false (fun _ => change key fun
    | none => some (.elements [[]])
    | some (.elements tables) => some (.elements ([] :: tables))
    | some _ => none) path

mutual

/-- **The value of a finished tree.** -/
def toToml : TableTree → Toml
  | .leaf value => value
  | .table _ entries => .table (entriesToToml entries)
  | .elements tables => .arr (tablesToToml tables).reverse

/-- The entries of a finished table. -/
def entriesToToml : Entries → List (String × Toml)
  | [] => []
  | (key, part) :: rest => (key, toToml part) :: entriesToToml rest

/-- The elements of a finished array of tables. -/
def tablesToToml : List Entries → List Toml
  | [] => []
  | entries :: rest => .table (entriesToToml entries) :: tablesToToml rest

end

end TableTree

end DomainFlow
