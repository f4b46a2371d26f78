import StakeLedger.Exchange.Delegation
import StakeLedger.Exchange.Params
import StakeLedger.Exchange.Settings
import StakeLedger.Proofs.Database.Loading
import StakeLedger.Proofs.Exchange.Form
import StakeLedger.Proofs.Params.Loading
import StakeLedger.Proofs.Text.HexOrder

/-!
# The Forms Are Exact

Everything that is exchanged is read back from what is written for it, form by form. Sets and maps
of keys are read back because they are listed in order, references to outputs because the colon is
no digit, and registries because their entries can be registered again (`Registry.load_all`).
-/

namespace StakeLedger

namespace Form

variable {α : Type} {depth : Nat}

/-! ## Bitcoin Values -/

/-- The form `txid` is exact: `Txid.ofText?` reads back what `Txid.text` spells, and a text is
nested to depth `0`. -/
theorem isExact_txid : txid.IsExact 0 := isExact_spelled Txid.ofText?_text

/-- The form `key` is exact, since `XOnlyKey.ofText?` reads back what `XOnlyKey.text` spells. -/
theorem isExact_key : key.IsExact 0 := isExact_spelled XOnlyKey.ofText?_text

/-- The form `signature` is exact, since `Signature.ofText?` reads back what `Signature.text`
spells. -/
theorem isExact_signature : signature.IsExact 0 := isExact_spelled Signature.ofText?_text

/-- The form `amount` is exact: an amount is a 64-bit number, and `Value.IsPlain` asks no more of
it. -/
theorem isExact_amount : amount.IsExact 0 where
  lossless a := by
    show (word64.read? (word64.write a.sats)).map Amount.mk = some a
    rw [isExact_word64.lossless]
    rfl
  plain a := isExact_word64.plain a.sats

/-- The form `bytes` is exact: `Hex.bytes?` reads back the digits of any list of bytes. -/
theorem isExact_bytes : bytes.IsExact 0 := by
  refine isExact_spelled fun bs => ?_
  rw [String.toList_ofList, Hex.bytes?_ofBytes]

/-- No colon is among the digits `Hex.ofNat width n`, so that one can stand behind them as a
separator. -/
theorem colon_not_mem_ofNat (width n : Nat) : ':' ∉ Hex.ofNat width n := by
  induction width with
  | zero => simp [Hex.ofNat]
  | succ width ih =>
    have all : ∀ i : Fin 16, Hex.digit i.val ≠ ':' := by decide
    have hdigit := all ⟨n / Hex.capacity width % 16, Nat.mod_lt _ (by decide)⟩
    simp [Hex.ofNat, ih, hdigit.symm]

/-- What `spellOutPoint` spells is read back by `readOutPoint?`: the colon is where the identifier
ends, by `colon_not_mem_ofNat`. -/
theorem readOutPoint?_spellOutPoint (o : OutPoint) : readOutPoint? (spellOutPoint o) = some o := by
  have hspell : (spellOutPoint o).toList =
      o.txid.text.toList ++ ':' :: Nat.toDigits 10 o.index.toNat := by
    have hindex : toString o.index = String.ofList (Nat.toDigits 10 o.index.toNat) := rfl
    have htext : ∀ s : String, toString s = s := fun _ => rfl
    simp [spellOutPoint, hindex, htext]
  -- the text is cut at its first colon, and the digits of the identifier have none
  have hspan : (spellOutPoint o).toList.span (· ≠ ':') =
      (o.txid.text.toList, ':' :: Nat.toDigits 10 o.index.toNat) := by
    have hnone : ∀ c ∈ o.txid.text.toList, (decide (c ≠ ':')) = true := by
      intro c hc
      rw [Txid.text, String.toList_ofList] at hc
      exact decide_eq_true fun heq => colon_not_mem_ofNat _ _ (heq ▸ hc)
    rw [hspell, List.span_eq_takeWhile_dropWhile, List.takeWhile_append_of_pos hnone,
      List.dropWhile_append_of_pos hnone]
    simp
  have hindex := o.index.toNat_lt
  rw [readOutPoint?, hspan]
  simp [Txid.ofText?_text, Decimal.readCanonical?_toDigits, UInt32.size, hindex]

/-- The form `outPoint` is exact, by `readOutPoint?_spellOutPoint`. -/
theorem isExact_outPoint : outPoint.IsExact 0 := isExact_spelled readOutPoint?_spellOutPoint

/-- The form `txInput` is exact, and the witness, a list of texts in a field, takes it to depth
`2`. -/
theorem isExact_txInput : txInput.IsExact 2 := by
  refine Layout.isExact_form (by decide) (fun _ => rfl) (fun i => ?_) fun i => ?_
  · simp [isExact_outPoint.isPlain, isExact_bytes.isPlain, isExact_word32.isPlain,
      isExact_bytes.list.isPlain]
  · simp [isExact_outPoint.lossless, isExact_bytes.lossless, isExact_word32.lossless,
      isExact_bytes.list.lossless]

/-- The form `txOutput` is exact: an amount and a script, side by side in a record. -/
theorem isExact_txOutput : txOutput.IsExact 1 := by
  refine Layout.isExact_form (by decide) (fun _ => rfl) (fun o => ?_) fun o => ?_
  · simp [isExact_amount.isPlain, isExact_bytes.isPlain]
  · simp [isExact_amount.lossless, isExact_bytes.lossless]

/-- The form `transaction` is exact: its inputs are at depth `2`, inside a list and a record. -/
theorem isExact_transaction : transaction.IsExact 4 := by
  refine Layout.isExact_form (by decide) (fun _ => rfl) (fun t => ?_) fun t => ?_
  · simp [isExact_signed32.isPlain, isExact_word32.isPlain, isExact_txInput.list.isPlain,
      isExact_txOutput.list.isPlain]
  · simp [isExact_signed32.lossless, isExact_word32.lossless, isExact_txInput.list.lossless,
      isExact_txOutput.list.lossless]

/-! ## Delegations, Markers and Events -/

/-- The form `state` is exact: no two states share the name that `State` gives them. -/
theorem isExact_state : state.IsExact 0 := isExact_named fun s => by cases s <;> rfl

/-- The form `subState` is exact: the names of the sub-states differ. -/
theorem isExact_subState : subState.IsExact 0 := isExact_named fun s => by cases s <;> rfl

/-- The form `slashedOutput` is exact: the names of the two outputs differ. -/
theorem isExact_slashedOutput : slashedOutput.IsExact 0 := isExact_named fun o => by cases o <;> rfl

/-- The form `keySet` is exact: a set of keys is written as the ordered list of its members, of
which `SortedSet` makes the same set. -/
theorem isExact_keySet : keySet.IsExact 1 where
  lossless s := by
    show (key.list.read? (key.list.write s.elements)).map SortedSet.ofList = some s
    rw [isExact_key.list.lossless, Option.map_some, SortedSet.ofList_elements]
  plain s := isExact_key.list.plain s.elements

/-- The form `signatures` is exact: the fields come in the order of the names `key.text`, which is
one in which inserting them makes up the map again. -/
theorem isExact_signatures : signatures.IsExact 1 where
  lossless m := by
    have hread : ∀ entries : List (XOnlyKey × Signature),
        (entries.map fun e => (e.1.text, signature.write e.2)).mapM readSigned? = some entries := by
      intro entries
      rw [mapM_eq_some_iff, List.map_map]
      refine List.map_congr_left fun e _ => ?_
      simp [readSigned?, XOnlyKey.ofText?_text, isExact_signature.lossless e.2]
    -- sorting the written fields permutes the entries behind them
    obtain ⟨entries, hperm, hsorted⟩ := exists_map_eq_of_perm (List.mergeSort_perm
      (m.entries.map fun e => (e.1.text, signature.write e.2)) fun a b => decide (a.1 ≤ b.1))
    show (List.mapM readSigned? (List.mergeSort _ _)).map SortedMap.ofList = some m
    rw [← hsorted, hread, Option.map_some, SortedMap.ofList_of_perm hperm]
  plain m := by
    refine ⟨?_, fun f hf => ?_⟩
    · have hnames : (m.entries.map fun e => (e.1.text, signature.write e.2)).map (·.1) =
          m.keys.map XOnlyKey.text := by
        rw [List.map_map, SortedMap.keys, List.map_map]
        rfl
      rw [hnames]
      exact List.Pairwise.map _ (fun _ _ hne heq => hne (XOnlyKey.text_inj heq)) m.nodup_keys
    · obtain ⟨e, -, rfl⟩ := List.mem_map.1 hf
      exact isExact_signature.plain _

/-- Every value that `stakeValues s` lists is plain at depth `1`; only the set of keys is nested. -/
theorem plain_stakeValues (s : Stake) : ∀ v ∈ stakeValues s, v.IsPlain 1 := by
  simp [stakeValues, isExact_txid.isPlain, isExact_key.isPlain, isExact_keySet.isPlain,
    isExact_amount.isPlain, isExact_word32.isPlain]

/-- The stake `s` is what `stakeOfFields` makes of all the values in `stakeValues s`. -/
theorem stakeOfFields_values (s : Stake) : stakeOfFields ((stakeValues s).map some) = some s := by
  simp [stakeOfFields, stakeValues, isExact_txid.lossless, isExact_key.lossless,
    isExact_keySet.lossless, isExact_amount.lossless, isExact_word32.lossless]

/-- The form `stake` is exact, by `plain_stakeValues` and `stakeOfFields_values`. -/
theorem isExact_stake : stake.IsExact 2 :=
  Layout.isExact_form (by decide) (fun _ => rfl) plain_stakeValues stakeOfFields_values

/-- The form `slashing` is exact: the output and the transaction, which is at depth `4`, in a
record. -/
theorem isExact_slashing : slashing.IsExact 5 := by
  refine Layout.isExact_form (by decide) (fun _ => rfl) (fun s => ?_) fun s => ?_
  · simp [isExact_slashedOutput.isPlain, isExact_transaction.isPlain, isExact_word64.isPlain]
  · simp [isExact_slashedOutput.lossless, isExact_transaction.lossless, isExact_word64.lossless]

/-- The form `delegation` is exact: the fields of the stake come first, then those of the record,
the deepest of which is the slashing. -/
theorem isExact_delegation : delegation.IsExact 6 := by
  have hsubState := isExact_subState.optional fun _ => nofun
  have hheight := isExact_word64.optional fun _ => nofun
  have hslashing := isExact_slashing.optional fun _ => nofun
  refine Layout.isExact_form (by decide) (fun _ => rfl) (fun d => ?_) fun d => ?_
  · refine List.forall_mem_append.2 ⟨fun v hv => (plain_stakeValues d.stake v hv).mono
      (by decide), ?_⟩
    simp [isExact_state.isPlain, hsubState.isPlain, hheight.isPlain, isExact_signatures.isPlain,
      hslashing.isPlain]
  · have htake : ((stakeValues d.stake).map some).length = 7 := rfl
    simp only [List.map_append, List.drop_left' htake, List.take_left' htake, stakeOfFields_values]
    simp [isExact_state.lossless, hsubState.lossless, hheight.lossless, isExact_signatures.lossless,
      hslashing.lossless]

/-- The form `marker` is exact: its three fields are texts and numbers. -/
theorem isExact_marker : marker.IsExact 1 := by
  refine Layout.isExact_form (by decide) (fun _ => rfl) (fun m => ?_) fun m => ?_
  · simp [isExact_word64.isPlain, isExact_txid.isPlain, isExact_subState.isPlain]
  · simp [isExact_word64.lossless, isExact_txid.lossless, isExact_subState.lossless]

/-- The form `cursor` is exact: a height and an identifier in a record. -/
theorem isExact_cursor : cursor.IsExact 1 := by
  refine Layout.isExact_form (by decide) (fun _ => rfl) (fun c => ?_) fun c => ?_
  · simp [isExact_word64.isPlain]
  · simp [isExact_word64.lossless]

/-- The form `kind` is exact: the name tells the transition, and the one field tells the output that
was spent. -/
theorem isExact_kind : kind.IsExact 1 where
  lossless k := by rcases k with _ | _ | _ | _ | (_ | _) | _ | _ <;> rfl
  plain k := by
    cases k with
    | timelockExpired path =>
      refine ⟨by simp, fun f hf => ?_⟩
      rw [List.mem_singleton.1 hf]
      exact isExact_subState.plain _
    | _ => simp [kind, writeKind, Value.IsPlain]

/-- The value `writeObservation delegation name fields` is plain at depth `6`, if the `fields` are
plain at depth `4` and their names differ from each other and from `staking_txid`. -/
theorem plain_observation {delegation : Txid} {name : String} {fields : List (String × Value)}
    (hnodup : ("staking_txid" :: fields.map (·.1)).Nodup) (hplain : ∀ f ∈ fields, f.2.IsPlain 4) :
    (writeObservation delegation name fields).IsPlain 6 := by
  refine ⟨by simp, fun f hf => ?_⟩
  obtain rfl := List.mem_singleton.1 hf
  refine ⟨hnodup, fun f hf => ?_⟩
  rcases List.mem_cons.1 hf with rfl | hf
  · exact isExact_txid.isPlain (by decide) _
  · exact hplain f hf

/-- The form `event` is exact: the name in front tells which fields the body of the event has. -/
theorem isExact_event : event.IsExact 6 where
  lossless e := by
    cases e with
    | newStake s =>
      have hbody : ∀ body, readEvent? (.record [("NewStake", body)]) =
          (stake.read? body).map .newStake :=
        fun _ => rfl
      simp only [event, writeEvent, hbody, isExact_stake.lossless s, Option.map_some]
    | observed d o =>
      -- each kind of observation has its own fields, and is read back from them
      cases o <;> simp [event, writeEvent, writeObservation, readEvent?, readObservation?,
        List.lookup_cons,
        isExact_txid.lossless, isExact_word64.lossless, isExact_subState.lossless,
          isExact_transaction.lossless]
  plain e := by
    cases e with
    | newStake s =>
      refine ⟨by simp, fun f hf => ?_⟩
      obtain rfl := List.mem_singleton.1 hf
      exact isExact_stake.isPlain (by decide) s
    | observed d o =>
      cases o <;> refine plain_observation (by simp) ?_ <;>
        simp [isExact_word64.isPlain, isExact_subState.isPlain, isExact_transaction.isPlain]

end Form

/-! ## Parameters -/

/-- The entries `r.all` of a registry can be loaded under the checkpoint of `r`, and `load` makes
the registry `r` of them again. -/
theorem Registry.load_all (r : Registry) : load r.checkpoint r.all = .ok r := by
  obtain ⟨r', hload⟩ := exists_load_iff.2 r.isLoadable_all
  rw [hload, r.holds_all.unique (holds_of_load hload) fun _ => .rfl]

namespace Form

variable (roomy : Bool)

/-- The form of registries, where `readRegistry?` is cut to an option: the reason why an entry
cannot be registered does not matter. -/
def registry (roomy : Bool) : Form Registry where
  write := writeRegistry
  read? v := readRegistry? v roomy |>.bind Except.toOption

/-- The form `checkpoint` is exact, whether or not it is `roomy`, that is, whether records may have
further fields. -/
theorem isExact_checkpoint : (checkpoint roomy).IsExact 1 := by
  refine Layout.isExact_form (by simp) (fun _ => rfl) (fun c => ?_) fun c => ?_
  · simp [isExact_word64.isPlain]
  · simp [isExact_word64.lossless]

/-- The form `stakingParams` is exact: the sets of keys it has are at depth `1`. -/
theorem isExact_stakingParams : (stakingParams roomy).IsExact 2 := by
  refine Layout.isExact_form (by simp) (fun _ => rfl) (fun p => ?_) fun p => ?_
  · simp [isExact_word32.isPlain, isExact_key.list.isPlain, isExact_amount.isPlain]
  · simp [isExact_word32.lossless, isExact_key.list.lossless, isExact_amount.lossless]

/-- The form `paramsList` is exact: it lists the parameters, at depth `2`, in a field of a
record. -/
theorem isExact_paramsList : (paramsList roomy).IsExact 4 := by
  refine Layout.isExact_form (by simp) (fun _ => rfl) (fun p => ?_) fun p => ?_
  · simp [(isExact_checkpoint roomy).isPlain, (isExact_stakingParams roomy).list.isPlain]
  · simp [(isExact_checkpoint roomy).lossless, (isExact_stakingParams roomy).list.lossless]

/-- The form `registry` is exact: the list of its entries is read back by `isExact_paramsList`, and
loaded again by `Registry.load_all`. -/
theorem isExact_registry : (registry roomy).IsExact 4 where
  lossless r := by
    have hread := (isExact_paramsList roomy).lossless (r.checkpoint, r.all)
    show (((paramsList roomy).read? ((paramsList roomy).write (r.checkpoint, r.all))).map _).bind
      _ = some r
    rw [hread]
    show Except.toOption (Registry.load r.checkpoint r.all) = some r
    rw [r.load_all]
    rfl
  plain r := (isExact_paramsList roomy).plain (r.checkpoint, r.all)

/-! ## Settings -/

/-- The form `duration` is exact: the nanoseconds written are below a second, so that none is
carried. -/
theorem isExact_duration : (duration roomy).IsExact 1 := by
  refine Layout.isExact_form (by simp) (fun _ => rfl) (fun d => ?_) fun d => ?_
  · simp [isExact_word64.isPlain, isExact_word32.isPlain]
  · simp [isExact_word64.lossless, isExact_word32.lossless, Duration.ofParts?_parts]

/-- The form `databaseSettings` is exact: two durations at depth `1` are in its record. -/
theorem isExact_databaseSettings : (databaseSettings roomy).IsExact 2 := by
  refine Layout.isExact_form (by simp) (fun _ => rfl) (fun s => ?_) fun s => ?_
  · simp [isExact_word64.isPlain, (isExact_duration roomy).isPlain, isExact_word32.isPlain]
  · simp [isExact_word64.lossless, (isExact_duration roomy).lossless, isExact_word32.lossless]

/-- The form `scannerSettings` is exact: the interval is a duration, the size of a page a number. -/
theorem isExact_scannerSettings : (scannerSettings roomy).IsExact 2 := by
  refine Layout.isExact_form (by simp) (fun _ => rfl) (fun s => ?_) fun s => ?_
  · simp [(isExact_duration roomy).isPlain, isExact_word64.isPlain]
  · simp [isExact_word64.lossless, (isExact_duration roomy).lossless]

/-- The form `nodeSettings` is exact: the fields are texts and numbers, and the password may be
null. -/
theorem isExact_nodeSettings : nodeSettings.IsExact 1 := by
  refine Layout.isExact_form (by decide) (fun _ => rfl) (fun s => ?_) fun s => ?_
  · simp [isExact_text.isPlain]
  · simp [isExact_text.lossless]

/-- The form `settings` is exact: the settings of each part are read back from a field of their
own. -/
theorem isExact_settings : settings.IsExact 3 := by
  have hthreads := isExact_word64.optional fun _ => nofun
  have htimeout := (isExact_duration true).optional fun _ => nofun
  refine Layout.isExact_form (by decide) (fun _ => rfl) (fun s => ?_) fun s => ?_
  · simp [isExact_text.isPlain, isExact_nodeSettings.isPlain,
      (isExact_databaseSettings true).isPlain,
      (isExact_scannerSettings true).isPlain, hthreads.isPlain, htimeout.isPlain]
  · simp [isExact_text.lossless, isExact_nodeSettings.lossless,
      (isExact_databaseSettings true).lossless,
      (isExact_scannerSettings true).lossless, hthreads.lossless, htimeout.lossless]

end Form

end StakeLedger
