import StakeLedger.Database.Tables

/-!
# Failures of Requests

A request that the database does not answer leaves the database as it is
(`Database.answer_unchanged`). The failures of the database itself come from its rows, or from data
that do not allow the request, and never go away by themselves (`Database.answer_isLasting`).
Contention and connectivity are what obstacles are made of.
-/

namespace StakeLedger

/-! ## Transient Failures -/

/-- Failures that come from contention or connectivity: `e.IsContention` lists them, by the codes
that the database reports them with. -/
inductive DatabaseError.IsContention : DatabaseError → Prop where
  /-- No connection became free in time. -/
  | poolTimedOut : IsContention (.driver .poolTimedOut)
  /-- The connection broke, with the message `text`. -/
  | inputOutput (text : String) : IsContention (.driver (.inputOutput text))
  /-- The database is busy: `5` is the low byte of every extended `code` for that. -/
  | busy (code : Nat) (text : String) (h : code % 256 = 5) :
    IsContention (.driver (.reported code text))
  /-- A table is locked: `6` is the low byte of every extended `code` for that. -/
  | locked (code : Nat) (text : String) (h : code % 256 = 6) :
    IsContention (.driver (.reported code text))

/-- The failures that `isTransient` names are those that come from contention or connectivity, and
no others. -/
theorem DatabaseError.isTransient_iff (e : DatabaseError) : e.isTransient ↔ e.IsContention := by
  constructor
  · intro h
    rcases e with failure | text | text
    · cases failure with
      | poolTimedOut => exact .poolTimedOut
      | inputOutput text => exact .inputOutput text
      -- of the codes that are reported, `isTransient` looks for busy and locked
      | reported code text =>
        rcases (Bool.or_eq_true _ _).mp h with h | h
        · exact .busy code text (beq_iff_eq.1 h)
        · exact .locked code text (beq_iff_eq.1 h)
      | rowNotFound => cases h
      | column name cause => cases h
    · cases h
    · cases h
  · intro h
    cases h with
    | poolTimedOut => rfl
    | inputOutput text => rfl
    | busy code text h => simp [isTransient, DriverFailure.isTransient, h]
    | locked code text h => simp [isTransient, DriverFailure.isTransient, h]

/-! ## Outcomes that Fail in One Way -/

/-- An `outcome` fails in the way `P`, if it fails at all: `P e` holds of the error `e` it has. -/
def FailsAs {ε α : Type} (P : ε → Prop) (outcome : Except ε α) : Prop :=
  ∀ e, outcome = .error e → P e

section

variable {ε α β : Type} {P : ε → Prop}

theorem failsAs_ok (a : α) : FailsAs P (.ok a) := by
  rintro e ⟨⟩

/-- The error `e` fails in the way `P` if `P e` holds. -/
theorem failsAs_error {e : ε} (h : P e) : FailsAs P (.error e : Except ε α) := by
  rintro e' ⟨⟩
  exact h

/-- Two steps fail in the way `P` if the first one does and so does the second, whatever the first
one gave. -/
theorem FailsAs.bind {x : Except ε α} {f : α → Except ε β} (hx : FailsAs P x)
    (hf : ∀ a, FailsAs P (f a)) :
    FailsAs P (x >>= f) := by
  cases x with
  | error e => exact failsAs_error (hx e rfl)
  | ok a => exact hf a

/-- Changing what a success gives does not change the ways to fail. -/
theorem FailsAs.map {x : Except ε α} (hx : FailsAs P x) (f : α → β) : FailsAs P (x.map f) := by
  cases x with
  | error e => exact failsAs_error (hx e rfl)
  | ok a => exact failsAs_ok _

/-- An outcome whose errors are changed by `f` fails in the way `Q`, if `f` takes the errors in `P`
to errors in `Q`. -/
theorem FailsAs.mapError {ε' : Type} {Q : ε' → Prop} {x : Except ε α} (hx : FailsAs P x)
    {f : ε → ε'} (hf : ∀ e, P e → Q (f e)) : FailsAs Q (x.mapError f) := by
  cases x with
  | error e => exact failsAs_error (hf e (hx e rfl))
  | ok a => exact failsAs_ok _

/-- Running `f` on one item after another fails in the way `P` if each single run does. -/
theorem FailsAs.mapM {f : α → Except ε β} (hf : ∀ a, FailsAs P (f a)) (as : List α) :
    FailsAs P (as.mapM f) := by
  induction as with
  | nil => exact failsAs_ok _
  | cons a as ih =>
    rw [List.mapM_cons]
    exact (hf a).bind fun _ => ih.bind fun _ => failsAs_ok _

end

/-! ## Rows -/

/-- Failures of the driver that do not go away by themselves: those that `isTransient` does not
name. -/
def DriverFailure.IsLasting (failure : DriverFailure) : Prop := ¬failure.isTransient

namespace Column

/-- A column that cannot be read fails for good: `read` turns what `Decoded` says into the failure
of a column, which is no contention. -/
theorem failsAs_read {α : Type} (name : String) (d : Decoded α) :
    FailsAs DriverFailure.IsLasting (read name d) := by
  refine FailsAs.mapError (P := fun _ => True) (fun _ _ => trivial) fun cause _ => ?_
  exact Bool.false_ne_true

/-- A column that may be null fails for good, as `read` does where there is something to decode. -/
theorem failsAs_readOptional {α β : Type} (name : String) (decode : β → Decoded α) (o : Option β) :
    FailsAs DriverFailure.IsLasting (readOptional name decode o) := by
  cases o with
  | none => exact failsAs_ok _
  | some b => exact (failsAs_read name (decode b)).map _

end Column

open Column

theorem SignatureRow.failsAs_decode (r : SignatureRow) : FailsAs DriverFailure.IsLasting r.decode :=
  (failsAs_read _ _).bind fun _ => (failsAs_read _ _).bind fun _ => (failsAs_read _ _).bind fun _ =>
    failsAs_ok _

theorem MarkerRow.failsAs_decode (r : MarkerRow) : FailsAs DriverFailure.IsLasting r.decode :=
  (failsAs_read _ _).bind fun _ => (failsAs_read _ _).bind fun _ => (failsAs_read _ _).bind fun _ =>
    failsAs_ok _

/-- A row of a delegation that cannot be read fails for good, in whichever of its columns that
is. -/
theorem DelegationRow.failsAs_decode (r : DelegationRow) :
    FailsAs DriverFailure.IsLasting r.decode := by
  -- eight columns that always hold a value, then six that may hold nothing
  iterate 8 refine (failsAs_read _ _).bind fun _ => ?_
  iterate 6 refine (failsAs_readOptional _ _ _).bind fun _ => ?_
  exact failsAs_ok _

/-- Failures of the database that do not go away by themselves: those that `isTransient` does not
name. -/
def DatabaseError.IsLasting (e : DatabaseError) : Prop := ¬e.isTransient

/-- A failure of the driver that lasts is, as a failure `.driver` of the database, one that
lasts. -/
theorem FailsAs.driver {α : Type} {x : Except DriverFailure α}
    (h : FailsAs DriverFailure.IsLasting x) :
    FailsAs DatabaseError.IsLasting (x.mapError .driver) :=
  h.mapError fun _ hlasting => hlasting

/-- A failed conversion lasts, whatever its `text` says. -/
theorem DatabaseError.isLasting_conversion (text : String) :
    (conversion text).IsLasting := Bool.false_ne_true

/-- A failure that comes from data lasts, whatever its `text` says. -/
theorem DatabaseError.isLasting_data (text : String) : (data text).IsLasting := Bool.false_ne_true

/-- A row of a cursor that cannot be read fails for good, and so does one whose version is
negative. -/
theorem CursorRow.failsAs_decode (r : CursorRow) : FailsAs DatabaseError.IsLasting r.decode := by
  refine (failsAs_read _ _).driver.bind fun height => (failsAs_read _ _).driver.bind fun version =>
    ?_
  dsimp only
  split
  · exact (failsAs_error (DatabaseError.isLasting_conversion _)).bind fun _ => failsAs_ok _
  · exact failsAs_ok _

/-! ## Requests -/

namespace Database

variable (db : Database)

/-- Reading `rows` one after another fails for good if each row can only do so. -/
theorem failsAs_decodeAll {α β : Type} {decode : α → Except DriverFailure β}
    (h : ∀ a, FailsAs DriverFailure.IsLasting (decode a)) (rows : List α) :
    FailsAs DatabaseError.IsLasting (decodeAll decode rows) :=
  (FailsAs.mapM h rows).driver

/-- Giving `delegations` their signatures fails for good, namely in a row of the signatures. -/
theorem failsAs_withSignatures (delegations : List Delegation) :
    FailsAs DatabaseError.IsLasting (db.withSignatures delegations) :=
  (failsAs_decodeAll SignatureRow.failsAs_decode _).bind fun _ => failsAs_ok _

/-- The point query of a delegation fails for good: in its own row, or in a row of its
signatures. -/
theorem failsAs_getDelegation (txid : Txid) :
    FailsAs DatabaseError.IsLasting (db.getDelegation txid) := by
  rw [getDelegation]
  split
  · exact failsAs_ok _
  next row _ =>
    refine (DelegationRow.failsAs_decode row).driver.bind fun _ => ?_
    exact (failsAs_decodeAll SignatureRow.failsAs_decode _).bind fun _ => failsAs_ok _

/-- A search for a `provider` fails for good in a `row` that it looks at, be it the stored list or
another column. -/
theorem failsAs_decodeIfProvided (provider : XOnlyKey) (row : DelegationRow) :
    FailsAs DriverFailure.IsLasting (decodeIfProvided provider row) := by
  rw [decodeIfProvided]
  split
  · exact failsAs_error Bool.false_ne_true
  · split
    · exact (DelegationRow.failsAs_decode row).map _
    · exact failsAs_ok _

/-- The query of a cursor fails for good, namely in its row. -/
theorem failsAs_getCursor (name : String) :
    FailsAs DatabaseError.IsLasting (db.getCursor name) := by
  rw [getCursor]
  split
  · exact failsAs_ok _
  · exact CursorRow.failsAs_decode _

/-- Saving a signature fails for good: there is no such delegation. -/
theorem failsAs_saveSignature (txid : Txid) (key : XOnlyKey) (signature : Signature) :
    FailsAs DatabaseError.IsLasting (db.saveSignature txid key signature).1 := by
  rw [saveSignature]
  dsimp only
  split
  · exact failsAs_error (DatabaseError.isLasting_data _)
  · split <;> exact failsAs_ok _

/-- Advancing a cursor fails for good: the row it compares with cannot be read. -/
theorem failsAs_advanceCursor (name : String) (expected : UInt64) (height : Height) :
    FailsAs DatabaseError.IsLasting (db.advanceCursor name expected height).1 := by
  have hstale := (db.failsAs_getCursor name).map CursorOutcome.stale
  rw [advanceCursor]
  split
  · split
    · exact hstale
    · exact failsAs_ok _
  · split
    · exact failsAs_ok _
    · exact hstale

/-- A request that meets no obstacle, and yet fails, fails for good, whatever the rows of `db` are:
`answer` itself never reports contention. -/
theorem answer_isLasting (r : Request) : FailsAs DatabaseError.IsLasting (db.answer r).1 := by
  cases r with
  | getDelegation txid => exact db.failsAs_getDelegation txid
  | saveSignature txid key signature => exact db.failsAs_saveSignature txid key signature
  | delegationsByStates states =>
    exact (failsAs_decodeAll DelegationRow.failsAs_decode _).bind db.failsAs_withSignatures
  | delegationsByProvider provider =>
    exact (failsAs_decodeAll (failsAs_decodeIfProvided provider) _).bind fun _ =>
      db.failsAs_withSignatures _
  | dueMarkers tip after limit => exact failsAs_decodeAll MarkerRow.failsAs_decode _
  | getCursor name => exact db.failsAs_getCursor name
  | advanceCursor name expected height => exact db.failsAs_advanceCursor name expected height
  | saveDelegation _ | updateState _ _ | saveMarker _ | deleteMarker _ => exact failsAs_ok _

/-- A request `r` that `db` answers by a failure leaves `db` as it is. -/
theorem answer_unchanged {r : Request} {e : DatabaseError} (h : (db.answer r).1 = .error e) :
    (db.answer r).2 = db := by
  cases r with
  -- only these two read before they write, and they fail where they read
  | saveSignature txid key signature =>
    change (db.saveSignature txid key signature).1 = _ at h
    show (db.saveSignature txid key signature).2 = db
    rw [saveSignature] at h ⊢
    dsimp only at h ⊢
    split at h
    · rw [if_pos ‹_›]
    · split at h <;> cases h
  | advanceCursor name expected height =>
    change (db.advanceCursor name expected height).1 = _ at h
    show (db.advanceCursor name expected height).2 = db
    rw [advanceCursor] at h ⊢
    split at h
    next hfirst =>
      rw [if_pos hfirst]
      split at h
      · rw [if_pos ‹_›]
      · cases h
    next hlater =>
      rw [if_neg hlater]
      split at h
      · cases h
      · rw [if_neg ‹_›]
  | saveDelegation _ | updateState _ _ | saveMarker _ | deleteMarker _ => cases h
  | getDelegation _ | delegationsByStates _ | delegationsByProvider _ | dueMarkers _ _ _
  | getCursor _ => rfl

end Database

end StakeLedger
