import HttpSuite.Toml.Value

/-!
# Building tables

A document fills tables from headers and from keys with dots. A table may be filled from one of them
only, and only one header may open it; headers may add tables below it.

* `Tree.open?`: the tree after a header.
* `Tree.assign?`: the tree after a key and its value.
-/

namespace HttpSuite.Toml

/-- How a table came to be. -/
inductive Origin where
  /-- It was opened by a header of its own, or it is the document. -/
  | header
  /-- It stands on the way to the table of a header. -/
  | path
  /-- It stands on the way to a key with dots. -/
  | dotted
  deriving DecidableEq, Repr

/-- What a key holds while a document is read. -/
inductive Tree where
  /-- A value that can no longer be added to. -/
  | value (v : Value)
  | table (origin : Origin) (entries : List (String × Tree))
  /-- The tables that headers with double brackets opened, the last one first. -/
  | tables (elements : List (List (String × Tree)))
  deriving Inhabited

namespace Tree

/-- The entries of a table. -/
abbrev Entries := List (String × Tree)

/-- Sets the entry of a key, in its place if there is one already. -/
def set (key : String) (t : Tree) : Entries → Entries
  | [] => [(key, t)]
  | (k, u) :: es => if k = key then (k, t) :: es else (k, u) :: set key t es

/-- A change of a table, given how the table came to be. -/
abbrev Change := Origin → Entries → Option Entries

/-- Applies a change to the table at a path below a table. Tables that are not there yet come to be
as `fresh` says; of a list of tables the last one is meant. Keys with dots do not lead through
tables that a header opened. -/
def descend (fresh : Origin) (change : Change) : List String → Change
  | [], origin, entries => change origin entries
  | key :: path, _, entries =>
    match entries.lookup key with
    | none => (descend fresh change path fresh []).map fun es => set key (.table fresh es) entries
    | some (.table origin below) =>
      if fresh = .dotted ∧ origin = .header then none
      else
        (descend fresh change path origin below).map fun es => set key (.table origin es) entries
    | some (.tables (last :: others)) =>
      (descend fresh change path .header last).map fun es =>
        set key (.tables (es :: others)) entries
    | some _ => none

/-- Opens the table of a header below its parent. -/
def openTable (key : String) : Change := fun _ entries =>
  match entries.lookup key with
  | none => some (set key (.table .header []) entries)
  | some (.table .path below) => some (set key (.table .header below) entries)
  | some _ => none

/-- Adds a table to the list of a header with double brackets. -/
def openElement (key : String) : Change := fun _ entries =>
  match entries.lookup key with
  | none => some (set key (.tables [[]]) entries)
  | some (.tables elements) => some (set key (.tables ([] :: elements)) entries)
  | some _ => none

/-- Gives a new key its value, in a table that came to be as `parent` says. -/
def newKey (parent : Origin → Bool) (key : String) (v : Value) : Change := fun origin entries =>
  if parent origin && (entries.lookup key).isNone then some (entries ++ [(key, .value v)])
  else none

/-- The path to a key and the key itself. -/
def splitLast (keys : List String) : List String × String := (keys.dropLast, keys.getLast?.getD "")

/-- The document after a header. -/
def open? (array : Bool) (keys : List String) (root : Entries) : Option Entries :=
  let (path, key) := splitLast keys
  descend .path (if array then openElement key else openTable key) path .header root

/-- A table after a key, which may have dots, and its value. -/
def assignIn (keys : List String) (v : Value) : Change :=
  let (path, key) := splitLast keys
  if path.isEmpty then newKey (· != .dotted) key v
  else descend .dotted (newKey (· == .dotted) key v) path

/-- The document after a key and its value below the table of the last header. -/
def assign? (table keys : List String) (v : Value) (root : Entries) : Option Entries :=
  descend .path (assignIn keys v) table .header root

mutual

/-- The value of a finished tree. -/
def toValue : Tree → Value
  | value v => v
  | table _ entries => .table (entryValues entries)
  | tables elements => .array (elementValues elements).reverse

/-- The values of the entries of a table. -/
def entryValues : List (String × Tree) → List (String × Value)
  | [] => []
  | (k, t) :: es => (k, toValue t) :: entryValues es

/-- The values of a list of tables. -/
def elementValues : List (List (String × Tree)) → List Value
  | [] => []
  | es :: rest => .table (entryValues es) :: elementValues rest

end

end Tree

end HttpSuite.Toml
