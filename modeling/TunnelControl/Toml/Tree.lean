import TunnelControl.Toml.Value

/-!
# The tree that a document describes

The lines of a document build up a tree of tables (`Node`).  A table remembers how it came about
(`Origin`), for that decides who may add to it: a header defines a table once, the tables on the way to
it may still be defined later, and those on the way to a dotted key belong to such keys alone.

* `addPair`     the effect of a line with a key and a value, in the table of the last header;
* `addTable`    the effect of the header of a table;
* `addElement`  the effect of the header of an element of a list of tables.

All of them may refuse.  `freeze` turns a tree into a value.
-/

namespace TunnelControl.Toml

/-- how a table came about -/
inductive Origin
  /-- by a header of its own, or as the root -/
  | defined
  /-- on the way to a header -/
  | passed
  /-- on the way to a dotted key -/
  | dotted
  deriving DecidableEq, Repr

inductive Node
  | value (v : Toml)
  | table (origin : Origin) (entries : List (String × Node))
  /-- a list of tables: the latest, and those before it, the latest of them first -/
  | tables (latest : List (String × Node)) (earlier : List (List (String × Node)))
  deriving Repr

/-- the entries of a table, the latest first -/
abbrev Entries := List (String × Node)

/-- changes the node of a key that is there -/
def replace (key : String) (change : Node → Option Node) : Entries → Option Entries
  | [] => none
  | (k, node) :: rest =>
    if k = key then do some ((k, ← change node) :: rest)
    else do some ((k, node) :: (← replace key change rest))

/-- changes the node of a key, or makes one -/
def update (key : String) (change : Option Node → Option Node) (entries : Entries) : Option Entries :=
  if entries.any fun entry => entry.1 = key then replace key (fun node => change (some node)) entries
  else do some ((key, ← change none) :: entries)

/-- changes the table at the end of a path, making tables where there are none -/
def changeAt (dotted : Bool) (change : Origin → Entries → Option Entries) :
    List String → Origin → Entries → Option Entries
  | [], origin, entries => change origin entries
  | key :: path, _, entries =>
    entries |> update key fun
      | none =>
        let origin := if dotted then .dotted else .passed
        (changeAt dotted change path origin []).map (.table origin)
      | some (.value _) => none
      | some (.table origin inner) =>
        if dotted && origin = .defined then none
        else (changeAt dotted change path origin inner).map (.table origin)
      | some (.tables latest earlier) =>
        (changeAt dotted change path .defined latest).map (.tables · earlier)

/-- adds a key that is new, behind a path of dotted keys; only such a path leads into their tables -/
def addDotted (path : List String) (key : String) (v : Toml) : Origin → Entries → Option Entries :=
  changeAt true
    (fun origin entries =>
      if (origin = .dotted) = path.isEmpty then none
      else entries |> update key fun
        | none => some (.value v)
        | some _ => none)
    path

/-- adds a pair to the table at a path of headers -/
def addPair (table path : List String) (key : String) (v : Toml) (root : Entries) : Option Entries :=
  changeAt false (addDotted path key v) table .defined root

/-- defines a table that was at most passed by before -/
def addTable (path : List String) (key : String) (root : Entries) : Option Entries :=
  changeAt false
    (fun _ entries => entries |> update key fun
      | none => some (.table .defined [])
      | some (.table .passed inner) => some (.table .defined inner)
      | some _ => none)
    path .defined root

/-- begins a list of tables or adds a table to it -/
def addElement (path : List String) (key : String) (root : Entries) : Option Entries :=
  changeAt false
    (fun _ entries => entries |> update key fun
      | none => some (.tables [] [])
      | some (.tables latest earlier) => some (.tables [] (latest :: earlier))
      | some _ => none)
    path .defined root

mutual

def freeze : Node → Toml
  | .value v => v
  | .table _ entries => .table (freezeEntries entries [])
  | .tables latest earlier => .array (freezeTables earlier [.table (freezeEntries latest [])])

/-- the values of entries, before those of others that came later -/
def freezeEntries : List (String × Node) → List (String × Toml) → List (String × Toml)
  | [], later => later
  | (key, node) :: rest, later => freezeEntries rest ((key, freeze node) :: later)

/-- tables, before others that came later -/
def freezeTables : List (List (String × Node)) → List Toml → List Toml
  | [], later => later
  | entries :: rest, later => freezeTables rest (.table (freezeEntries entries []) :: later)

end

/-- the table that some pairs within braces make up -/
def ofPairs : List ((List String × String) × Toml) → Option Toml :=
  fun pairs => do
    let entries ← go pairs []
    some (.table (freezeEntries entries []))
where
  /-- adds the pairs one after the other -/
  go : List ((List String × String) × Toml) → Entries → Option Entries
    | [], entries => some entries
    | ((path, key), v) :: pairs, entries => do go pairs (← addDotted path key v .defined entries)

end TunnelControl.Toml
