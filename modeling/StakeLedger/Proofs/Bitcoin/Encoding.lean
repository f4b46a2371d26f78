import StakeLedger.Bitcoin.Transaction.Encoding
import StakeLedger.Proofs.Bitcoin.Wire

/-!
# Reading Back Transactions

A transaction is read back from its encoding, in the extended form as well as without it
(`Transaction.reads_take`), and therefore from the text that shows the encoding if this is not
larger than a reader accepts (`Transaction.ofHex?_hex`).
-/

namespace StakeLedger.Transaction

open Wire

/-! ## Inputs and Outputs -/

/-- The input `i` without its witness, as `takeInput` returns it: in the wire form the witnesses
stand behind the outputs. -/
def bare (i : TxInput) : TxInput := { i with witness := [] }

/-- The reader `takeInput` reads `encodeInput i` as `bare i`, if the script has fewer than `2 ^ 64`
bytes. -/
theorem reads_takeInput {i : TxInput} (h : i.script.length < UInt64.size) :
    Reads takeInput (encodeInput i) (bare i) := by
  have htxid := reads_takeNat 32 (n := i.previousOutput.txid.number.toNat)
    (Nat.lt_of_lt_of_eq i.previousOutput.txid.number.isLt (by decide +kernel))
  have hindex := reads_takeNat 4 (n := i.previousOutput.index.toNat)
    i.previousOutput.index.toNat_lt
  have hsequence := reads_takeNat 4 (n := i.sequence.toNat) i.sequence.toNat_lt
  have hbare : bare i = ⟨⟨⟨BitVec.ofNat 256 i.previousOutput.txid.number.toNat⟩,
      UInt32.ofNat i.previousOutput.index.toNat⟩, i.script, UInt32.ofNat i.sequence.toNat, []⟩ := by
    simp [bare]
  rw [encodeInput, List.append_assoc, List.append_assoc, hbare]
  exact htxid.bind (hindex.bind ((reads_takeByteString h).bind (hsequence.ret _)))

/-- The reader `takeOutput` reads `encodeOutput o` as `o`, if the script has fewer than `2 ^ 64`
bytes. -/
theorem reads_takeOutput {o : TxOutput} (h : o.script.length < UInt64.size) :
    Reads takeOutput (encodeOutput o) o := by
  have hvalue := reads_takeNat 8 (n := o.value.sats.toNat) o.value.sats.toNat_lt
  have hread : Reads takeOutput (encodeOutput o) ⟨⟨UInt64.ofNat o.value.sats.toNat⟩, o.script⟩ := by
    rw [encodeOutput]
    exact hvalue.bind ((reads_takeByteString h).ret _)
  rwa [UInt64.ofNat_toNat] at hread

/-- From the inputs without their witnesses, `takeWitnesses` reads the witnesses one after another
and gives the inputs back. -/
theorem reads_takeWitnesses {inputs : List TxInput}
    (h : ∀ i ∈ inputs, i.witness.length < UInt64.size ∧
      ∀ item ∈ i.witness, item.length < UInt64.size) :
    Reads (takeWitnesses (inputs.map bare)) (inputs.flatMap fun i => encodeWitness i.witness)
      inputs := by
  induction inputs with
  | nil => exact Reads.pure []
  | cons i inputs ih =>
    obtain ⟨⟨hcount, hitems⟩, hrest⟩ := List.forall_mem_cons.1 h
    have hwitness : Reads (takeList takeByteString) (encodeWitness i.witness) (i.witness.map id) :=
      reads_takeList hcount fun item hitem => reads_takeByteString (hitems item hitem)
    rw [List.map_id] at hwitness
    rw [List.flatMap_cons, List.map_cons]
    exact hwitness.bind ((ih hrest).ret _)

/-! ## Transactions -/

/-- All lengths in the transaction `t` are below `2 ^ 64`, so that `compactSize` can write them. -/
structure Fits (t : Transaction) : Prop where
  inputs : t.inputs.length < UInt64.size
  inputScripts : ∀ i ∈ t.inputs, i.script.length < UInt64.size
  /-- The number of items in each witness fits, and so does the length of every item. -/
  witnesses : ∀ i ∈ t.inputs, i.witness.length < UInt64.size ∧
    ∀ item ∈ i.witness, item.length < UInt64.size
  outputs : t.outputs.length < UInt64.size
  outputScripts : ∀ o ∈ t.outputs, o.script.length < UInt64.size

/-- The reader `takeList takeInput` reads the inputs of `t` as `t.inputs.map bare`. -/
theorem Fits.reads_inputs {t : Transaction} (h : t.Fits) :
    Reads (takeList takeInput) (Wire.list encodeInput t.inputs) (t.inputs.map bare) :=
  reads_takeList h.inputs fun i hi => reads_takeInput (h.inputScripts i hi)

/-- The reader `takeList takeOutput` reads the outputs of `t`. -/
theorem Fits.reads_outputs {t : Transaction} (h : t.Fits) :
    Reads (takeList takeOutput) (Wire.list encodeOutput t.outputs) t.outputs := by
  have houtputs : Reads (takeList takeOutput) (Wire.list encodeOutput t.outputs)
      (t.outputs.map id) :=
    reads_takeList h.outputs fun o ho => reads_takeOutput (h.outputScripts o ho)
  rwa [List.map_id] at houtputs

/-- The plain form is used where there are inputs and none of them has a witness, the extended one
otherwise: `t.isExtended` as one formula. -/
theorem isExtended_eq (t : Transaction) :
    t.isExtended = !(!t.inputs.isEmpty && t.inputs.all (·.witness.isEmpty)) := by
  rw [isExtended, List.all_eq_not_any_not, Bool.not_and, Bool.not_not, Bool.not_not]

/-- Nothing is left out of inputs that have no witness. -/
theorem map_bare {inputs : List TxInput} (h : ∀ i ∈ inputs, i.witness = []) :
    inputs.map bare = inputs := by
  have hbare : ∀ i ∈ inputs, bare i = id i := by
    intro i hi
    rw [bare, ← h i hi]
    rfl
  rw [List.map_congr_left hbare, List.map_id]

/-- What stands between the version and the lock time of `t` in `t.encode`. -/
def encodeBody (t : Transaction) : List UInt8 :=
  (if t.isExtended then [0, 1] else []) ++ (Wire.list encodeInput t.inputs ++
    (Wire.list encodeOutput t.outputs ++
      if t.isExtended then t.inputs.flatMap fun i => encodeWitness i.witness else []))

/-- The encoding `t.encode` is the version, `t.encodeBody` and the lock time. -/
theorem encode_eq (t : Transaction) :
    t.encode = littleEndian 4 t.version.toUInt32.toNat ++
      (t.encodeBody ++ littleEndian 4 t.lockTime.toNat) := by
  simp only [encode, encodeBody, List.append_assoc]

/-- The extended form begins with its mark `0, 1`, and the witnesses come last. -/
theorem encodeBody_of_isExtended {t : Transaction} (h : t.isExtended) :
    t.encodeBody =
      [0] ++ ([1] ++ (Wire.list encodeInput t.inputs ++ (Wire.list encodeOutput t.outputs ++
        t.inputs.flatMap fun i => encodeWitness i.witness))) := by
  rw [encodeBody, if_pos h, if_pos h]
  rfl

theorem encodeBody_of_not_isExtended {t : Transaction} (h : ¬t.isExtended) :
    t.encodeBody = Wire.list encodeInput t.inputs ++ Wire.list encodeOutput t.outputs := by
  rw [encodeBody, if_neg h, if_neg h, List.append_nil, List.nil_append]

/-- The reader `takeBody` reads `t.encodeBody` as the pair of the inputs and the outputs. -/
theorem reads_takeBody {t : Transaction} (h : t.Fits) :
    Reads takeBody t.encodeBody (t.inputs, t.outputs) := by
  have hinputs := h.reads_inputs
  by_cases hextended : t.isExtended
  · rw [encodeBody_of_isExtended hextended]
    -- the mark is read as an empty list of inputs and a flag
    have hmark : Reads (takeList takeInput) (Wire.list encodeInput []) (List.map bare []) :=
      reads_takeList (by decide) nofun
    have hflag : Reads (takeNat 1) [1] 1 := reads_takeNat 1 (n := 1) (by decide)
    refine hmark.bind ?_
    rw [List.map_nil, List.isEmpty_nil, if_pos rfl]
    refine hflag.bind ?_
    rw [if_pos rfl]
    refine hinputs.bind (h.reads_outputs.bind ((reads_takeWitnesses h.witnesses).bind_nil ?_))
    rw [isExtended_eq, Bool.not_eq_true'] at hextended
    rw [if_neg (Bool.eq_false_iff.1 hextended)]
    exact Reads.pure _
  · rw [encodeBody_of_not_isExtended hextended]
    rw [isExtended_eq, Bool.not_eq_true', Bool.not_eq_false, Bool.and_eq_true,
      Bool.not_eq_true'] at hextended
    obtain ⟨hfilled, hnone⟩ := hextended
    rw [map_bare fun i hi => List.isEmpty_iff.1 (List.all_eq_true.1 hnone i hi)] at hinputs
    refine hinputs.bind ?_
    rw [if_neg (Bool.eq_false_iff.1 hfilled)]
    exact h.reads_outputs.ret _

/-- A transaction whose lengths fit is read back: `take` reads `t.encode` as `t`. -/
theorem reads_take {t : Transaction} (h : t.Fits) : Reads take t.encode t := by
  have hversion := reads_takeNat 4 (n := t.version.toUInt32.toNat)
    t.version.toUInt32.toNat_lt
  have hlockTime := reads_takeNat 4 (n := t.lockTime.toNat) t.lockTime.toNat_lt
  have hread : Reads take t.encode ⟨(UInt32.ofNat t.version.toUInt32.toNat).toInt32,
      UInt32.ofNat t.lockTime.toNat, t.inputs, t.outputs⟩ := by
    rw [encode_eq]
    exact hversion.bind ((reads_takeBody h).bind (hlockTime.ret _))
  rwa [UInt32.ofNat_toNat, UInt32.ofNat_toNat] at hread

/-- Every length in `t` is bounded by the length of `t.encode`, so that all of them fit if it
does. -/
theorem fits_of_length {t : Transaction} (h : t.encode.length < UInt64.size) : t.Fits := by
  simp only [encode, List.length_append, length_littleEndian] at h
  have hinput : ∀ i : TxInput, i.script.length < (encodeInput i).length := by
    intro i
    have hscript := length_lt_length_byteString i.script
    simp only [encodeInput, List.length_append, length_littleEndian]
    omega
  have houtput : ∀ o : TxOutput, o.script.length < (encodeOutput o).length := by
    intro o
    have hscript := length_lt_length_byteString o.script
    simp only [encodeOutput, List.length_append, length_littleEndian]
    omega
  -- a count is bounded by the bytes of what is counted, as each item takes at least one
  have hinputs := length_items_le_length_list (fun i => Nat.zero_lt_of_lt (hinput i)) t.inputs
  have houtputs := length_items_le_length_list (fun o => Nat.zero_lt_of_lt (houtput o)) t.outputs
  refine ⟨by omega, fun i hi => ?_, fun i hi => ?_, by omega, fun o ho => ?_⟩
  · -- the script of an input is shorter than its encoding, which is a part of the list
    have hscript := hinput i
    have hlist : (encodeInput i).length ≤ (Wire.list encodeInput t.inputs).length :=
      length_le_length_list hi
    omega
  · -- witnesses are written in the extended form only
    by_cases hnone : i.witness = []
    · rw [hnone]
      exact ⟨by decide, nofun⟩
    · -- a witness that is there is written
      have hextended : t.isExtended := by
        rw [isExtended, Bool.or_eq_true]
        exact .inr (List.any_eq_true.2 ⟨i, hi, by simpa using hnone⟩)
      have hsublist : (encodeWitness i.witness).Sublist
          (t.inputs.flatMap fun i => encodeWitness i.witness) :=
        List.sublist_flatten_of_mem (List.mem_map_of_mem hi)
      have hlist := hsublist.length_le
      have hitems := length_items_le_length_list
        (fun item => Nat.zero_lt_of_lt (length_lt_length_byteString item)) i.witness
      rw [if_pos hextended, if_pos hextended] at h
      rw [encodeWitness] at hlist
      refine ⟨by omega, fun item hitem => ?_⟩
      have hstring := length_lt_length_byteString item
      have hbytes : (byteString item).length ≤ (Wire.list byteString i.witness).length :=
        length_le_length_list hitem
      omega
  · have hscript := houtput o
    have hlist : (encodeOutput o).length ≤ (Wire.list encodeOutput t.outputs).length :=
      length_le_length_list ho
    omega

/-- A transaction is read back from `t.hex`, the text of its encoding, if the encoding has at most
`sizeLimit` bytes. -/
theorem ofHex?_hex {t : Transaction} (h : t.encode.length ≤ sizeLimit) : ofHex? t.hex = some t := by
  have hfits : t.Fits := fits_of_length (Nat.lt_of_le_of_lt h (by decide))
  have hread := reads_take hfits []
  rw [List.append_nil] at hread
  rw [ofHex?, hex, String.toList_ofList, Hex.bytes?_ofBytes, Option.bind_some, decode?,
    if_pos h, hread]

end StakeLedger.Transaction
