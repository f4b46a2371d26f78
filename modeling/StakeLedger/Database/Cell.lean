import StakeLedger.Database.Tables

/-!
# Cells

A row is also a list of cells, one for each column of its table. Cells allow a look at the raw
contents of the database (`Database.contents`) and to overwrite columns of chosen rows
(`Database.overwrite`).

Columns prefer texts or numbers, and take what is written to them or compared with them accordingly.
Nothing is written if some row would break a rule of its table: columns that always hold a value,
keys that are unique, signatures that belong to a delegation.
-/

namespace StakeLedger

/-- The contents of one column of one row, which may be nothing. -/
abbrev Cell := Option Datum

/-- What a column prefers to hold, which decides what it makes of a cell. -/
inductive Preference where
  | texts
  | numbers
  deriving DecidableEq, Repr

/-- What a column with the preference `p` makes of a cell that is written to it or compared with
it. -/
def Preference.convert (p : Preference) (cell : Cell) : Cell :=
  cell.map fun d =>
    match p with
    | texts => (d.textual?.map .text).getD d
    | numbers => d.numeric

namespace Cell

/-- The cell of the text `s`. -/
def text (s : String) : Cell := some (.text s)

/-- The text a cell holds, if it holds one. -/
def text? : Cell → Option String
  | some (.text s) => some s
  | _ => none

/-- The text a cell holds, or nothing if it is empty; fails for a number. -/
def optionalText? : Cell → Option (Option String)
  | none => some none
  | cell => cell.text?.map some

end Cell

/-- How the rows of type `ρ` are seen as cells, one for each column of their table. -/
structure Table (ρ : Type) where
  /-- The names of the columns in order, each with what it prefers to hold. -/
  columns : List (String × Preference)
  /-- The cells of a row, in the order of `columns`. -/
  cells : ρ → List Cell
  /-- The row of given cells, unless one of them does not fit its column. -/
  ofCells : List Cell → Option ρ
  /-- The order of the primary keys. -/
  compareKey : ρ → ρ → Ordering

open Cell

/-- The table `delegations`, with the transaction as primary key. -/
def DelegationRow.table : Table DelegationRow where
  columns := [("staking_txid", .texts), ("staker_pk", .texts), ("finality_provider_pks", .texts),
    ("staking_amount", .numbers), ("staking_time", .numbers), ("unbonding_time", .numbers),
    ("params_version", .numbers), ("state", .texts), ("sub_state", .texts),
    ("start_height", .numbers), ("expiry_height", .numbers), ("slashing_output", .texts),
    ("slashing_tx", .texts), ("slashing_height", .numbers)]
  cells r := [text r.txid, text r.staker, text r.providers, some r.amount, some r.stakingTime,
    some r.unbondingTime, some r.paramsVersion, text r.state, r.subState.map .text, r.startHeight,
    r.expiryHeight, r.slashingOutput.map .text, r.slashingTx.map .text, r.slashingHeight]
  ofCells
    | [txid, staker, providers, amount, stakingTime, unbondingTime, paramsVersion, state, subState,
        startHeight, expiryHeight, slashingOutput, slashingTx, slashingHeight] => do
      return {
        txid := ← txid.text?
        staker := ← staker.text?
        providers := ← providers.text?
        amount := ← amount
        stakingTime := ← stakingTime
        unbondingTime := ← unbondingTime
        paramsVersion := ← paramsVersion
        state := ← state.text?
        subState := ← subState.optionalText?
        startHeight
        expiryHeight
        slashingOutput := ← slashingOutput.optionalText?
        slashingTx := ← slashingTx.optionalText?
        slashingHeight }
    | _ => none
  compareKey a b := compare a.txid b.txid

/-- The table `covenant_signatures`, with the transaction and the key as primary key. -/
def SignatureRow.table : Table SignatureRow where
  columns := [("staking_txid", .texts), ("covenant_pk", .texts), ("signature", .texts)]
  cells r := [text r.txid, text r.key, text r.signature]
  ofCells
    | [txid, key, signature] => do
      return { txid := ← txid.text?, key := ← key.text?, signature := ← signature.text? }
    | _ => none
  compareKey a b := (compare a.txid b.txid).then (compare a.key b.key)

/-- The table `timelock_markers`, with all columns as primary key. -/
def MarkerRow.table : Table MarkerRow where
  columns := [("expire_height", .numbers), ("staking_txid", .texts), ("sub_state", .texts)]
  cells r := [some r.expireHeight, text r.txid, text r.subState]
  ofCells
    | [expireHeight, txid, subState] => do
      return {
        expireHeight := ← expireHeight
        txid := ← txid.text?
        subState := ← subState.text? }
    | _ => none
  compareKey a b := (compare a.expireHeight b.expireHeight).then
    ((compare a.txid b.txid).then (compare a.subState b.subState))

/-- The table `cursors`, with the name as primary key. -/
def CursorRow.table : Table CursorRow where
  columns := [("name", .texts), ("height", .numbers), ("version", .numbers)]
  cells r := [text r.name, some r.height, some r.version]
  ofCells
    | [name, height, version] => do
      return {
        name := ← name.text?
        height := ← height
        version := ← version }
    | _ => none
  compareKey a b := compare a.name b.name

namespace Table

variable {ρ : Type} (table : Table ρ)

/-- The cells of a row, each with the name of its column. -/
def named (row : ρ) : List (String × Cell) := (table.columns.map (·.1)).zip (table.cells row)

/-- The rows in the order of their primary keys, each as its cells by column. -/
def contents (rows : List ρ) : List (List (String × Cell)) :=
  (rows.mergeSort fun a b => (table.compareKey a b).isLE).map table.named

/-- The given cell as the `column` of the table takes it. -/
def convert (column : String) (cell : Cell) : Cell :=
  match table.columns.lookup column with
  | some preference => preference.convert cell
  | none => cell

/-- Whether a row holds the cells that `conditions` gives for some columns. -/
def holds (conditions : List (String × Cell)) (row : ρ) : Bool :=
  conditions.all fun (column, cell) =>
    (table.named row).lookup column == some (table.convert column cell)

/-- A row with the cells that `changes` gives for some columns in place of its own. -/
def replace (changes : List (String × Cell)) (row : ρ) : Option ρ :=
  table.ofCells ((table.named row).map fun (column, cell) =>
    match changes.lookup column with
    | some given => table.convert column given
    | none => cell)

/-- Whether no two rows have the same primary key, by `compareKey`. -/
def hasUniqueKeys : List ρ → Bool
  | [] => true
  | row :: rest => rest.all (fun other => table.compareKey row other != .eq) && hasUniqueKeys rest

/-- Overwrites columns of the rows that hold the cells of `conditions`; gives their number and all
rows. Fails without a change if a row does not fit or two rows have one key afterwards. -/
def overwrite (changes conditions : List (String × Cell)) (rows : List ρ) :
    Option (Nat × List ρ) := do
  guard (!changes.isEmpty && (changes ++ conditions).all fun c => (table.columns.lookup c.1).isSome)
  let rows' ← rows.mapM fun row =>
    if table.holds conditions row then table.replace changes row else some row
  -- all rows change or none does
  guard (table.hasUniqueKeys rows')
  return (rows.countP (table.holds conditions), rows')

end Table

namespace Database

/-- The contents of all tables, each with its name. -/
def contents (db : Database) : List (String × List (List (String × Cell))) :=
  [("delegations", DelegationRow.table.contents db.delegations),
    ("covenant_signatures", SignatureRow.table.contents db.signatures),
    ("timelock_markers", MarkerRow.table.contents db.markers),
    ("cursors", CursorRow.table.contents db.cursors)]

/-- Whether every signature belongs to a delegation of the database. -/
def hasOwners (db : Database) : Bool :=
  db.signatures.all fun s => db.delegations.any fun d => d.txid = s.txid

/-- Overwrites columns of the rows of `table` that hold the cells of `conditions`; gives their
number and the database afterwards. -/
def overwrite (db : Database) (table : String) (changes conditions : List (String × Cell)) :
    Option (Nat × Database) := do
  let (count, db) ← match table with
    | "delegations" => do
      let (count, delegations) ← DelegationRow.table.overwrite changes conditions db.delegations
      some (count, { db with delegations })
    | "covenant_signatures" => do
      let (count, signatures) ← SignatureRow.table.overwrite changes conditions db.signatures
      some (count, { db with signatures })
    | "timelock_markers" => do
      let (count, markers) ← MarkerRow.table.overwrite changes conditions db.markers
      some (count, { db with markers })
    | "cursors" => do
      let (count, cursors) ← CursorRow.table.overwrite changes conditions db.cursors
      some (count, { db with cursors })
    | _ => none
  guard db.hasOwners
  return (count, db)

end Database

end StakeLedger
