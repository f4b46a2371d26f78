import StakeLedger.Data.Value

/-!
# Trees of Tables in TOML

A document fills a tree of tables line by line. How a table came about decides what may be added to
it: a table that only stands on the way to another one may still get a header of its own, a table
made by dotted names may get further dotted names, and a table with a header of its own gets
neither. Nothing is added to a value, and no name is given twice.
-/

namespace StakeLedger.Toml

/-- How a table came about, which decides what may be added to it. -/
inductive Origin where
  /-- It stands on the way to a header. -/
  | path
  /-- It stands on the way to a dotted name. -/
  | dotted
  /-- It has a header of its own. -/
  | header
  deriving DecidableEq, Repr

/-- What a name stands for in a document: a value, a table, or a list of tables. -/
inductive Node where
  | value (v : Value)
  | table (origin : Origin) (entries : List (String × Node))
  /-- A list of tables, of which the last one is being filled. -/
  | tables (items : List (List (String × Node)))

/-- The entries of a table, in the order in which they were made. -/
abbrev Entries := List (String × Node)

namespace Entries

/-- The entries with `node` under `name`, in place of the one there is. -/
def set (name : String) (node : Node) : Entries → Entries
  | [] => [(name, node)]
  | (n, old) :: rest => if n = name then (n, node) :: rest else (n, old) :: set name node rest

/-- Changes the table under `name`. A missing one is `made`; of a list of tables the last one is
changed. The table under the name may be refused for how it came about, unless it is `allowed`. -/
def descend (name : String) (made : Origin) (allowed : Origin → Bool)
    (change : Origin → Entries → Option Entries) (entries : Entries) : Option Entries :=
  match entries.lookup name with
  | none => (change made []).map fun inner => entries.set name (.table made inner)
  | some (.table origin inner) =>
    if allowed origin then
      (change origin inner).map fun inner => entries.set name (.table origin inner)
    else none
  | some (.tables items) =>
    -- the item opened last is the one being filled
    match items.getLast? with
    | none => none
    | some last =>
      (change .header last).map fun last => entries.set name (.tables (items.dropLast ++ [last]))
  | some (.value _) => none

/-- Adds `value` under a dotted name to a table of the given origin. -/
def addDotted (value : Value) : List String → Origin → Entries → Option Entries
  | [], _, _ => none
  | [name], origin, entries =>
    -- the table a dotted name ends in has to have come about by dotted names itself
    if origin = .dotted ∧ (entries.lookup name).isNone then some (entries.set name (.value value))
    else none
  | name :: rest, _, entries =>
    entries.descend name .dotted (· ≠ .header) (addDotted value rest)

/-- Adds `value` under a name, dotted or not, to a table that is being filled. -/
def add (value : Value) : List String → Entries → Option Entries
  | [name], entries =>
    if (entries.lookup name).isNone then some (entries.set name (.value value)) else none
  | names, entries => addDotted value names .header entries

/-- Opens the table of a header, which may not have had a header before. -/
def openTable : List String → Entries → Option Entries
  | [], _ => none
  | [name], entries =>
    match entries.lookup name with
    | none => some (entries.set name (.table .header []))
    -- a table that was only passed through gets its header late
    | some (.table .path inner) => some (entries.set name (.table .header inner))
    | some _ => none
  | name :: rest, entries => entries.descend name .path (fun _ => true) fun _ => openTable rest

/-- Opens a further table of the list of tables that a header names. -/
def openItem : List String → Entries → Option Entries
  | [], _ => none
  | [name], entries =>
    match entries.lookup name with
    | none => some (entries.set name (.tables [[]]))
    | some (.tables items) => some (entries.set name (.tables (items ++ [[]])))
    | some _ => none
  | name :: rest, entries => entries.descend name .path (fun _ => true) fun _ => openItem rest

/-- Adds `value` under `names` to the table of the last header. -/
def addUnder (value : Value) (names : List String) : List String → Entries → Option Entries
  | [], entries => add value names entries
  | name :: rest, entries =>
    entries.descend name .path (fun _ => true) fun _ => addUnder value names rest

end Entries

mutual

/-- The value of a node, in which tables are records. -/
def Node.toValue : Node → Value
  | .value v => v
  | .table _ entries => .record (Node.toFields entries)
  | .tables items => .list (Node.toRecords items)

/-- The fields of the entries of a table, in their order. -/
def Node.toFields : List (String × Node) → List (String × Value)
  | [] => []
  | (name, node) :: rest => (name, node.toValue) :: Node.toFields rest

/-- The records of a list of tables, in their order. -/
def Node.toRecords : List (List (String × Node)) → List Value
  | [] => []
  | entries :: rest => .record (Node.toFields entries) :: Node.toRecords rest

end

end StakeLedger.Toml
