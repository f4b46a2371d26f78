import StakeLedger.Proofs.Exchange.Lossless
import StakeLedger.Proofs.Exchange.Spelling

/-!
# Normal Texts

Each value that is exchanged has one text that is ever written, and an input that is accepted has
the normal text of its value. Normal texts are read back, and the normal text of an input means the
same as the input and is its own normal text. How an accepted input may differ from its normal text
is part of the main result, too (`exchange_normalized`): it may have its fields in any order and
unknown ones among them, be the list of their values, leave out optional fields, have letters in
either case, list keys in any order and repeatedly, or have nanoseconds that make up seconds.
-/

namespace StakeLedger

/-- What is exchanged on its own or as a record within something else. Some of it is also read from
files, where the lists that stand for records are `roomy`. -/
inductive Exchanged where
  | stake
  | delegation
  | slashing
  | transaction
  | txInput
  | txOutput
  | marker
  | kind
  | state
  | subState
  | slashedOutput
  | cursor
  | event
  | checkpoint (roomy : Bool)
  | stakingParams (roomy : Bool)
  | registry (roomy : Bool)
  | duration (roomy : Bool)
  | databaseSettings (roomy : Bool)
  | scannerSettings (roomy : Bool)
  | nodeSettings
  | settings

namespace Exchanged

/-- The type of the values that are exchanged, which `form` writes and reads. -/
@[reducible]
def Carrier : Exchanged → Type
  | stake => Stake
  | delegation => Delegation
  | slashing => Slashing
  | transaction => Transaction
  | txInput => TxInput
  | txOutput => TxOutput
  | marker => Marker
  | kind => TransitionKind
  | state => State
  | subState => SubState
  | slashedOutput => SlashedOutput
  | cursor => Cursor
  | event => Event
  | checkpoint _ => CheckpointParams
  | stakingParams _ => StakingParams
  | registry _ => Registry
  | duration _ => Duration
  | databaseSettings _ => DatabaseSettings
  | scannerSettings _ => ScannerSettings
  | nodeSettings => NodeSettings
  | settings => Settings

/-- The form in which the values of `x.Carrier` are written and read. -/
def form : (x : Exchanged) → Form x.Carrier
  | stake => .stake
  | delegation => .delegation
  | slashing => .slashing
  | transaction => .transaction
  | txInput => .txInput
  | txOutput => .txOutput
  | marker => .marker
  | kind => .kind
  | state => .state
  | subState => .subState
  | slashedOutput => .slashedOutput
  | cursor => .cursor
  | event => .event
  | checkpoint roomy => .checkpoint roomy
  | stakingParams roomy => .stakingParams roomy
  | registry roomy => .registry roomy
  | duration roomy => .duration roomy
  | databaseSettings roomy => .databaseSettings roomy
  | scannerSettings roomy => .scannerSettings roomy
  | nodeSettings => .nodeSettings
  | settings => .settings

/-- The names of the fields of a record, in the order in which they are written; `none` for what is
not a record. -/
def fieldNames? : Exchanged → Option (List String)
  | stake =>
    some ["staking_txid", "staker_pk", "finality_provider_pks", "staking_amount", "staking_time",
      "unbonding_time", "params_version"]
  | delegation =>
    some ["staking_txid", "staker_pk", "finality_provider_pks", "staking_amount", "staking_time",
      "unbonding_time", "params_version", "state", "sub_state", "start_height", "expiry_height",
      "covenant_signatures", "slashing"]
  | slashing => some ["output", "slashing_tx", "spend_height"]
  | transaction => some ["version", "lock_time", "input", "output"]
  | txInput => some ["previous_output", "script_sig", "sequence", "witness"]
  | txOutput => some ["value", "script_pubkey"]
  | marker => some ["expire_height", "staking_txid", "sub_state"]
  | cursor => some ["height", "version"]
  | checkpoint _ => some ["btc_confirmation_depth", "checkpoint_finalization_timeout"]
  | stakingParams _ =>
    some ["version", "covenant_pks", "covenant_quorum", "min_staking_value", "max_staking_value",
      "min_staking_time_blocks", "max_staking_time_blocks", "min_unbonding_time_blocks"]
  | registry _ => some ["checkpoint", "staking"]
  | duration _ => some ["secs", "nanos"]
  | databaseSettings _ => some ["max_retry_count", "backoff_period", "max_connections"]
  | scannerSettings _ => some ["interval", "page_size"]
  | nodeSettings => some ["url", "user", "pass"]
  | settings =>
    some ["datadir", "btc_client", "db", "expiry_checker", "num_threads", "shutdown_timeout"]
  | kind | state | subState | slashedOutput | event => none

/-- Whether a record may have no fields but those of `fieldNames?`. -/
def isClosed : Exchanged → Bool
  | duration _ => true
  | _ => false

/-- The names of the fields of a record that may be left out, which means the same as `null`. -/
def optionalNames : Exchanged → List String
  | delegation => ["sub_state", "start_height", "expiry_height", "slashing"]
  | settings => ["num_threads", "shutdown_timeout"]
  | _ => []

/-- The normal text of `input`: what `x.form.writeText` writes for the value that `x.form.readText?`
reads from it. -/
def normalize? (x : Exchanged) (input : String) : Option String :=
  (x.form.readText? input).map x.form.writeText

/-- Reading and writing fit together: what is written is read back, `normalize?` keeps the meaning
of an input and is idempotent, and records may be given in the ways the last two fields tell. -/
structure IsNormalized (x : Exchanged) : Prop where
  /-- What is written for a value `a` is read back as `a`. -/
  readText?_writeText : ∀ a, x.form.readText? (x.form.writeText a) = some a
  /-- The normal text `output` of an input means the same as the input and is its own normal
  text. -/
  normalize?_normalize? : ∀ input output, x.normalize? input = some output →
    x.form.readText? output = x.form.readText? input ∧ x.normalize? output = some output
  /-- A record is written with its fields in order: those of `x.fieldNames?`. -/
  exists_write_eq : ∀ names ∈ x.fieldNames?, ∀ a, ∃ values : List Value,
    values.length = names.length ∧ x.form.write a = .record (names.zip values)
  /-- The list of the values of the fields means the same as a record `fields` that gives them, in
  any order and with unknown fields among them unless `x.isClosed`. -/
  read?_list : ∀ names ∈ x.fieldNames?, ∀ values fields, values.length = names.length →
    Layout.Gives names values fields → (x.isClosed = true → ∀ f ∈ fields, f.1 ∈ names) →
      x.form.read? (.list values) = x.form.read? (.record fields)
  /-- An optional field that is `null` may be left out. -/
  read?_absent : ∀ name ∈ x.optionalNames, ∀ fields, name ∉ fields.map (·.1) →
    x.form.read? (.record ((name, .null) :: fields)) = x.form.read? (.record fields)

/-- Every form that is exchanged reads back what it writes, nested at most 127 deep. -/
theorem isExact_form (x : Exchanged) : x.form.IsExact 127 := by
  cases x with
  | stake => exact Form.isExact_stake.mono (by decide)
  | delegation => exact Form.isExact_delegation.mono (by decide)
  | slashing => exact Form.isExact_slashing.mono (by decide)
  | transaction => exact Form.isExact_transaction.mono (by decide)
  | txInput => exact Form.isExact_txInput.mono (by decide)
  | txOutput => exact Form.isExact_txOutput.mono (by decide)
  | marker => exact Form.isExact_marker.mono (by decide)
  | kind => exact Form.isExact_kind.mono (by decide)
  | state => exact Form.isExact_state.mono (by decide)
  | subState => exact Form.isExact_subState.mono (by decide)
  | slashedOutput => exact Form.isExact_slashedOutput.mono (by decide)
  | cursor => exact Form.isExact_cursor.mono (by decide)
  | event => exact Form.isExact_event.mono (by decide)
  | checkpoint roomy => exact (Form.isExact_checkpoint roomy).mono (by decide)
  | stakingParams roomy => exact (Form.isExact_stakingParams roomy).mono (by decide)
  | registry roomy => exact (Form.isExact_registry roomy).mono (by decide)
  | duration roomy => exact (Form.isExact_duration roomy).mono (by decide)
  | databaseSettings roomy => exact (Form.isExact_databaseSettings roomy).mono (by decide)
  | scannerSettings roomy => exact (Form.isExact_scannerSettings roomy).mono (by decide)
  | nodeSettings => exact Form.isExact_nodeSettings.mono (by decide)
  | settings => exact Form.isExact_settings.mono (by decide)

/-- A record is written with the names of `x.fieldNames?`, in their order. -/
theorem exists_write_eq (x : Exchanged) {names : List String} (hnames : x.fieldNames? = some names)
    (a : x.Carrier) :
    ∃ values : List Value, values.length = names.length ∧
      x.form.write a = .record (names.zip values) := by
  cases x with
  | kind | state | subState | slashedOutput | event => cases hnames
  | _ =>
    cases hnames
    refine ⟨_, ?_, rfl⟩
    rfl

/-- The list of the two parts of a registry is read as a record of them, and fails for the same
reason. -/
theorem readRegistry?_list {roomy : Bool} {values : List Value} {fields : List (String × Value)}
    (hlength : values.length = 2) (h : Layout.Gives ["checkpoint", "staking"] values fields) :
    Form.readRegistry? (.list values) roomy = Form.readRegistry? (.record fields) roomy := by
  have hread : (Form.paramsList roomy).read? (.list values) =
      (Form.paramsList roomy).read? (.record fields) :=
    Layout.read?_list _ (by simp) (by simp) hlength h nofun
  rw [Form.readRegistry?, Form.readRegistry?, hread]

/-- The list of the values means the same as a record `fields` that gives them under their names, in
any order, with unknown fields among them unless `x.isClosed`. -/
theorem read?_list (x : Exchanged) {names : List String} (hnames : x.fieldNames? = some names)
    {values : List Value} {fields : List (String × Value)} (hlength : values.length = names.length)
    (h : Layout.Gives names values fields)
    (hclosed : x.isClosed = true → ∀ f ∈ fields, f.1 ∈ names) :
    x.form.read? (.list values) = x.form.read? (.record fields) := by
  cases x with
  | kind | state | subState | slashedOutput | event => cases hnames
  | registry roomy =>
    cases hnames
    show (Form.readRegistry? _ roomy).bind _ = (Form.readRegistry? _ roomy).bind _
    rw [readRegistry?_list hlength h]
  | _ =>
    cases hnames
    exact Layout.read?_list _ (by simp [Form.stakeNames])
      (by simp [Form.stakeNames]) hlength h hclosed

/-- An optional field that is `null` may be left out of a record. -/
theorem read?_absent (x : Exchanged) {name : String} (hname : name ∈ x.optionalNames)
    {fields : List (String × Value)} (habsent : name ∉ fields.map (·.1)) :
    x.form.read? (.record ((name, .null) :: fields)) = x.form.read? (.record fields) := by
  cases x with
  | delegation =>
    refine Layout.read?_absent _ rfl habsent fun field hfield => ?_
    simp only [optionalNames, List.mem_cons, List.not_mem_nil, or_false] at hname
    rcases hname with rfl | rfl | rfl | rfl <;> simp [Form.stakeNames, hfield, Form.orNone_none]
  | settings =>
    refine Layout.read?_absent _ rfl habsent fun field hfield => ?_
    simp only [optionalNames, List.mem_cons, List.not_mem_nil, or_false] at hname
    rcases hname with rfl | rfl <;> simp [hfield, Form.orNone_none]
  | _ => cases hname

/-- Everything that is exchanged is normalized. -/
theorem isNormalized (x : Exchanged) : x.IsNormalized where
  readText?_writeText := x.isExact_form.readText?_writeText
  normalize?_normalize? input output h := by
    obtain ⟨a, hread, rfl⟩ := Option.map_eq_some_iff.1 h
    have hback := x.isExact_form.readText?_writeText a
    exact ⟨hback.trans hread.symm, by rw [normalize?, hback, Option.map_some]⟩
  exists_write_eq _ hnames a := x.exists_write_eq hnames a
  read?_list _ hnames _ _ hlength hgives hclosed := x.read?_list hnames hlength hgives hclosed
  read?_absent _ hname _ habsent := x.read?_absent hname habsent

end Exchanged

/-- The parts of a duration add up to its length in nanoseconds, whether or not `nanos` makes up
seconds. -/
theorem Form.read?_duration {roomy : Bool} {seconds : UInt64} {nanos : UInt32} {d : Duration} :
    (duration roomy).read? (.list [word64.write seconds, word32.write nanos]) = some d ↔
      d.seconds.toNat * 1000000000 + d.nanos.toNat = seconds.toNat * 1000000000 + nanos.toNat := by
  have hparts : (duration roomy).read? (.list [word64.write seconds, word32.write nanos]) =
      Duration.ofParts? seconds nanos := by
    simp [duration, Layout.form, Layout.fields?, isExact_word64.lossless, isExact_word32.lossless]
  rw [hparts, Duration.ofParts?_eq_some_iff]

/-- Everything that is exchanged is normalized: what is written is read back, and every input that
is accepted has a normal text, which means the same. Inputs mean the same that differ in how records
are given, in optional fields that are left out, in the case of letters, in the order of keys and
signatures, and in the nanoseconds that make up seconds. -/
theorem exchange_normalized :
    (∀ x : Exchanged, x.IsNormalized) ∧
    (Form.txid.IgnoresCase ∧ Form.key.IgnoresCase ∧ Form.signature.IgnoresCase ∧
      Form.bytes.IgnoresCase ∧ Form.outPoint.IgnoresCase) ∧
    (∀ vs ws : List Value, (∀ v, v ∈ vs ↔ v ∈ ws) →
      Form.keySet.read? (.list vs) = Form.keySet.read? (.list ws)) ∧
    (∀ fields fields' : List (String × Value), (fields.map (·.1.toLower)).Nodup →
      (fields.map Form.lowerName).Perm (fields'.map Form.lowerName) →
      Form.signatures.read? (.record fields) = Form.signatures.read? (.record fields')) ∧
    (∀ (roomy : Bool) (seconds : UInt64) (nanos : UInt32) (d : Duration),
      (Form.duration roomy).read? (.list [Form.word64.write seconds, Form.word32.write nanos]) =
        some d ↔ d.seconds.toNat * 1000000000 + d.nanos.toNat =
          seconds.toNat * 1000000000 + nanos.toNat) :=
  ⟨Exchanged.isNormalized,
    ⟨Form.ignoresCase_txid, Form.ignoresCase_key, Form.ignoresCase_signature,
      Form.ignoresCase_bytes, Form.ignoresCase_outPoint⟩,
    fun _ _ => Form.read?_keySet, fun _ _ => Form.read?_signatures,
    fun _ _ _ _ => Form.read?_duration⟩

/-- A list with nanoseconds that make up a second is written as a record in which they have been
carried. -/
example : (Form.duration.read? (.list [.integer 1, .integer 1500000000])).map Form.duration.write =
    some (.record [("secs", .integer 2), ("nanos", .integer 500000000)]) := by rfl

end StakeLedger
