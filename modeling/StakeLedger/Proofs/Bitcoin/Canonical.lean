import StakeLedger.Proofs.Bitcoin.Encoding

/-!
# Only Encodings Are Read

A reader takes nothing off the front but the wire form of the value it gives (`Wire.TakesOnly`). For
integers this is so because a count of bytes stands for one number only, for lengths because a
longer form than needed is refused, and for transactions because the extended form is refused where
the plain one would do.

With what is read back, this says exactly what is read: `Transaction.run_take_iff` for a transaction
with anything behind it, and `Transaction.decode?_eq_some_iff` for one that stands alone. In
particular no encoding is the beginning of another one (`Transaction.eq_of_encode_append`).
-/

namespace StakeLedger.Wire

variable {α β : Type}

/-- The reader `r` takes nothing but what `write` gives for the value it reads, and reads only
values of which `p` holds. -/
def TakesOnly (r : Reader α) (write : α → List UInt8) (p : α → Prop) : Prop :=
  ∀ ⦃bytes a rest⦄, r.run bytes = some (a, rest) → bytes = write a ++ rest ∧ p a

variable {r : Reader α} {write : α → List UInt8} {p : α → Prop}

/-- Of readers in sequence, the first one has taken a value `a` and left what is behind it, `mid`,
to the other. -/
theorem TakesOnly.bind_cases (h : TakesOnly r write p) {f : α → Reader β} {bytes rest : List UInt8}
    {b : β} (hrun : (r >>= f).run bytes = some (b, rest)) :
    ∃ a mid, bytes = write a ++ mid ∧ p a ∧ (f a).run mid = some (b, rest) := by
  rw [StateT.run_bind] at hrun
  obtain ⟨⟨a, mid⟩, hr, hf⟩ := Option.bind_eq_some_iff.1 hrun
  exact ⟨a, mid, (h hr).1, (h hr).2, hf⟩

/-! ## Integers -/

/-- A string of `count` bytes is taken as it stands. -/
theorem takesOnly_takeBytes (count : Nat) : TakesOnly (takeBytes count) id (·.length = count) := by
  intro bytes front rest h
  change takeBytes count bytes = some (front, rest) at h
  unfold takeBytes at h
  split at h
  next hle =>
    cases h
    exact ⟨(List.take_append_drop count bytes).symm, List.length_take_of_le hle⟩
  next => cases h

/-- The number that bytes stand for is written with these bytes. -/
theorem littleEndian_ofLittleEndian (bytes : List UInt8) :
    littleEndian bytes.length (ofLittleEndian bytes) = bytes := by
  induction bytes with
  | nil => rfl
  | cons b rest ih =>
    have hb := b.toNat_lt
    have hlow : UInt8.ofNat (b.toNat + 256 * ofLittleEndian rest) = b := by
      rw [← UInt8.toNat_inj, UInt8.toNat_ofNat']
      omega
    have hhigh : (b.toNat + 256 * ofLittleEndian rest) / 256 = ofLittleEndian rest := by omega
    rw [List.length_cons, ofLittleEndian, littleEndian, hlow, hhigh, ih]

/-- The number that bytes stand for is below the power of `256` that goes with their count. -/
theorem ofLittleEndian_lt (bytes : List UInt8) : ofLittleEndian bytes < 256 ^ bytes.length := by
  induction bytes with
  | nil => exact Nat.one_pos
  | cons b rest ih =>
    have hb := b.toNat_lt
    rw [ofLittleEndian, List.length_cons, Nat.pow_succ']
    omega

/-- An integer of `width` bytes is taken from its own bytes only. -/
theorem takesOnly_takeNat (width : Nat) :
    TakesOnly (takeNat width) (littleEndian width) (· < 256 ^ width) := by
  intro bytes n rest h
  obtain ⟨front, mid, rfl, hlength, h⟩ := (takesOnly_takeBytes width).bind_cases h
  cases h
  rw [← hlength, littleEndian_ofLittleEndian]
  exact ⟨rfl, ofLittleEndian_lt front⟩

/-! ## Lengths and Lists -/

/-- A length is read from its shortest form only, since a longer one than needed is refused. -/
theorem takesOnly_takeCompactSize : TakesOnly takeCompactSize compactSize (· < UInt64.size) := by
  intro bytes n rest h
  obtain ⟨marker, mid, rfl, hbyte, h⟩ := (takesOnly_takeNat 1).bind_cases h
  by_cases hshort : marker < 253
  · rw [if_pos hshort] at h
    cases h
    rw [compactSize, if_pos hshort]
    exact ⟨rfl, Nat.lt_trans hshort (by decide)⟩
  · rw [if_neg hshort] at h
    -- the longer forms differ in their width and in the least number they hold
    have hlong : ∀ width least, ((do
        let n ← takeNat width
        if least ≤ n then return n else failure : Reader Nat).run mid = some (n, rest)) →
        least ≤ n ∧ n < 256 ^ width ∧ mid = littleEndian width n ++ rest := by
      intro width least h
      obtain ⟨m, mid', rfl, hlt, h⟩ := (takesOnly_takeNat width).bind_cases h
      split at h
      next hleast =>
        cases h
        exact ⟨hleast, hlt, rfl⟩
      next => cases h
    by_cases h253 : marker = 253
    · subst h253
      obtain ⟨hleast, hlt, rfl⟩ := hlong 2 253 h
      have hsmall : n < UInt16.size := hlt
      rw [compactSize, if_neg (Nat.not_lt.2 hleast), if_pos hsmall]
      exact ⟨rfl, Nat.lt_trans hsmall (by decide)⟩
    -- what is left are numbers that fill more than two bytes
    have hlarge : ∀ {least}, UInt16.size ≤ least → least ≤ n → ¬n < 253 ∧ ¬n < UInt16.size := by
      intro least hsize hleast
      have hle := Nat.le_trans hsize hleast
      exact ⟨Nat.not_lt.2 (Nat.le_trans (by decide) hle), Nat.not_lt.2 hle⟩
    by_cases h254 : marker = 254
    · subst h254
      obtain ⟨hleast, hlt, rfl⟩ := hlong 4 UInt16.size h
      have hsmall : n < UInt32.size := hlt
      obtain ⟨h253, h16⟩ := hlarge (Nat.le_refl _) hleast
      rw [compactSize, if_neg h253, if_neg h16, if_pos hsmall]
      exact ⟨rfl, Nat.lt_trans hsmall (by decide)⟩
    · obtain rfl : marker = 255 := by omega
      obtain ⟨hleast, hlt, rfl⟩ := hlong 8 UInt32.size h
      obtain ⟨h253, h16⟩ := hlarge (by decide) hleast
      rw [compactSize, if_neg h253, if_neg h16, if_neg (Nat.not_lt.2 hleast)]
      exact ⟨rfl, hlt⟩

/-- A string of bytes is taken behind its length only. -/
theorem takesOnly_takeByteString :
    TakesOnly takeByteString byteString (·.length < UInt64.size) := by
  intro bytes string rest h
  obtain ⟨count, mid, rfl, hlt, h⟩ := takesOnly_takeCompactSize.bind_cases h
  obtain ⟨rfl, rfl⟩ := takesOnly_takeBytes count h
  exact ⟨(List.append_assoc ..).symm, hlt⟩

/-- As many values as `count` says are taken one after another. -/
theorem takesOnly_takeCount (h : TakesOnly r write p) (count : Nat) :
    TakesOnly (takeCount r count) (List.flatMap write) fun as =>
      as.length = count ∧ ∀ a ∈ as, p a := by
  induction count with
  | zero =>
    intro bytes as rest hrun
    cases hrun
    exact ⟨rfl, rfl, nofun⟩
  | succ count ih =>
    intro bytes as rest hrun
    obtain ⟨first, mid, rfl, hp, hrun⟩ := h.bind_cases hrun
    obtain ⟨others, mid, rfl, ⟨hlength, hall⟩, hrun⟩ := ih.bind_cases hrun
    cases hrun
    refine ⟨?_, congrArg Nat.succ hlength, List.forall_mem_cons.2 ⟨hp, hall⟩⟩
    rw [List.flatMap_cons, List.append_assoc]

theorem takesOnly_takeList (h : TakesOnly r write p) :
    TakesOnly (takeList r) (list write) fun as => as.length < UInt64.size ∧ ∀ a ∈ as, p a := by
  intro bytes as rest hrun
  obtain ⟨count, mid, rfl, hlt, hrun⟩ := takesOnly_takeCompactSize.bind_cases hrun
  obtain ⟨rfl, rfl, hall⟩ := takesOnly_takeCount h count hrun
  exact ⟨(List.append_assoc ..).symm, hlt, hall⟩

end StakeLedger.Wire

namespace StakeLedger.Transaction

open Wire

/-! ## Inputs and Outputs -/

/-- An input is taken without a witness, which stands elsewhere. -/
theorem takesOnly_takeInput :
    TakesOnly takeInput encodeInput fun i => i.script.length < UInt64.size ∧ i.witness = [] := by
  intro bytes i rest h
  obtain ⟨txid, mid, rfl, htxid, h⟩ := (takesOnly_takeNat 32).bind_cases h
  obtain ⟨index, mid, rfl, hindex, h⟩ := (takesOnly_takeNat 4).bind_cases h
  obtain ⟨script, mid, rfl, hfits, h⟩ := takesOnly_takeByteString.bind_cases h
  obtain ⟨sequence, mid, rfl, hsequence, h⟩ := (takesOnly_takeNat 4).bind_cases h
  cases h
  have hnumber : (BitVec.ofNat 256 txid).toNat = txid :=
    Nat.mod_eq_of_lt (Nat.lt_of_lt_of_eq htxid (by decide +kernel))
  refine ⟨?_, hfits, rfl⟩
  simp only [encodeInput, hnumber, UInt32.toNat_ofNat_of_lt' hindex,
    UInt32.toNat_ofNat_of_lt' hsequence, List.append_assoc]

/-- An output is taken as its amount and its script. -/
theorem takesOnly_takeOutput :
    TakesOnly takeOutput encodeOutput fun o => o.script.length < UInt64.size := by
  intro bytes o rest h
  obtain ⟨value, mid, rfl, hvalue, h⟩ := (takesOnly_takeNat 8).bind_cases h
  obtain ⟨script, mid, rfl, hfits, h⟩ := takesOnly_takeByteString.bind_cases h
  cases h
  refine ⟨?_, hfits⟩
  simp only [encodeOutput, UInt64.toNat_ofNat_of_lt' hvalue, List.append_assoc]

/-- Witnesses are filled in, and nothing else about the `inputs` changes. -/
theorem takesOnly_takeWitnesses (inputs : List TxInput) :
    TakesOnly (takeWitnesses inputs) (List.flatMap fun i => encodeWitness i.witness) fun filled =>
      filled.map bare = inputs.map bare ∧
        ∀ i ∈ filled, i.witness.length < UInt64.size ∧
          ∀ item ∈ i.witness, item.length < UInt64.size := by
  induction inputs with
  | nil =>
    intro bytes filled rest h
    cases h
    exact ⟨rfl, rfl, nofun⟩
  | cons i inputs ih =>
    intro bytes filled rest h
    -- the witness of the first input stands in front of those of the others
    obtain ⟨witness, mid, rfl, hfits, h⟩ :=
      (takesOnly_takeList takesOnly_takeByteString).bind_cases h
    obtain ⟨others, mid, rfl, ⟨hbare, hall⟩, h⟩ := ih.bind_cases h
    cases h
    refine ⟨?_, ?_, List.forall_mem_cons.2 ⟨hfits, hall⟩⟩
    · rw [List.flatMap_cons, List.append_assoc]
      rfl
    · rw [List.map_cons, List.map_cons, hbare]
      rfl

theorem list_encodeInput_map_bare (inputs : List TxInput) :
    Wire.list encodeInput (inputs.map bare) = Wire.list encodeInput inputs := by
  rw [Wire.list, Wire.list, List.length_map, List.flatMap_map]
  rfl

/-! ## Transactions -/

/-- What stands behind the mark of the extended form is accepted only where `isExtended` says that
this form is used. -/
theorem takesOnly_takeExtended :
    TakesOnly (do
      let inputs ← takeList takeInput
      let outputs ← takeList takeOutput
      let inputs ← takeWitnesses inputs
      if !inputs.isEmpty && inputs.all (·.witness.isEmpty) then failure
        else return (inputs, outputs))
      (fun body => Wire.list encodeInput body.1 ++
        (Wire.list encodeOutput body.2 ++ body.1.flatMap fun i => encodeWitness i.witness))
      fun body => ∀ version lockTime, isExtended ⟨version, lockTime, body.1, body.2⟩ ∧
        Fits ⟨version, lockTime, body.1, body.2⟩ := by
  intro bytes body rest h
  obtain ⟨unfilled, mid, rfl, ⟨hcount, hinputs⟩, h⟩ :=
    (takesOnly_takeList takesOnly_takeInput).bind_cases h
  obtain ⟨outputs, mid, rfl, ⟨houtputs, hscripts⟩, h⟩ :=
    (takesOnly_takeList takesOnly_takeOutput).bind_cases h
  obtain ⟨filled, mid, rfl, ⟨hbare, hwitnesses⟩, h⟩ :=
    (takesOnly_takeWitnesses unfilled).bind_cases h
  -- the inputs were taken without witnesses, so they are what is left of the filled ones without
  -- theirs
  rw [map_bare fun i hi => (hinputs i hi).2] at hbare
  split at h
  next => cases h
  next hneeded =>
    cases h
    refine ⟨?_, fun version lockTime => ⟨?_, ?_, fun i hi => ?_, hwitnesses, houtputs, hscripts⟩⟩
    · rw [← hbare, list_encodeInput_map_bare, List.append_assoc, List.append_assoc]
    · rw [isExtended_eq, Bool.not_eq_true']
      exact Bool.eq_false_iff.2 hneeded
    · rw [← hbare, List.length_map] at hcount
      exact hcount
    · have hmem : bare i ∈ unfilled := hbare ▸ List.mem_map_of_mem hi
      exact (hinputs _ hmem).1

/-- What stands between version and lock time is written in the same way for all of them. -/
theorem takesOnly_takeBody :
    TakesOnly takeBody (fun body => encodeBody ⟨0, 0, body.1, body.2⟩) fun body =>
      ∀ version lockTime, Fits ⟨version, lockTime, body.1, body.2⟩ := by
  intro bytes body rest h
  obtain ⟨counted, mid, rfl, ⟨hcount, hinputs⟩, h⟩ :=
    (takesOnly_takeList takesOnly_takeInput).bind_cases h
  by_cases hempty : counted.isEmpty
  · -- no inputs were counted, so the zero is the mark of the extended form
    obtain rfl := List.isEmpty_iff.1 hempty
    rw [if_pos hempty] at h
    obtain ⟨flag, mid, rfl, -, h⟩ := (takesOnly_takeNat 1).bind_cases h
    split at h
    -- a flag other than `1` is refused, so that only the extended form is left
    next hflag =>
      obtain ⟨rfl, hbody⟩ := takesOnly_takeExtended h
      refine ⟨?_, fun version lockTime => (hbody version lockTime).2⟩
      have hextended := encodeBody_of_isExtended (hbody 0 0).1
      rw [hflag]
      simp only [hextended, List.append_assoc]
      rfl
    next => cases h
  · -- inputs that are counted at once have no witnesses
    rw [if_neg hempty] at h
    obtain ⟨outputs, mid, rfl, ⟨houtputs, hscripts⟩, h⟩ :=
      (takesOnly_takeList takesOnly_takeOutput).bind_cases h
    cases h
    have hnone : counted.all (·.witness.isEmpty) :=
      List.all_eq_true.2 fun i hi => List.isEmpty_iff.2 (hinputs i hi).2
    have hplain : ¬isExtended ⟨0, 0, counted, outputs⟩ := by
      rw [isExtended_eq, hnone]
      simpa using hempty
    refine ⟨?_, fun version lockTime =>
      ⟨hcount, fun i hi => (hinputs i hi).1, fun i hi => ?_, houtputs, hscripts⟩⟩
    · change _ = encodeBody ⟨0, 0, counted, outputs⟩ ++ rest
      rw [encodeBody_of_not_isExtended hplain, List.append_assoc]
    · rw [(hinputs i hi).2]
      exact ⟨by decide, nofun⟩

/-- A transaction is taken from its encoding only, with lengths that fit. -/
theorem takesOnly_take : TakesOnly take encode Fits := by
  intro bytes t rest h
  obtain ⟨version, mid, rfl, hversion, h⟩ := (takesOnly_takeNat 4).bind_cases h
  obtain ⟨body, mid, rfl, hfits, h⟩ := takesOnly_takeBody.bind_cases h
  obtain ⟨lockTime, mid, rfl, hlockTime, h⟩ := (takesOnly_takeNat 4).bind_cases h
  cases h
  refine ⟨?_, hfits _ _⟩
  rw [encode_eq, UInt32.toUInt32_toInt32, UInt32.toNat_ofNat_of_lt' hversion,
    UInt32.toNat_ofNat_of_lt' hlockTime, List.append_assoc, List.append_assoc]
  rfl

/-- A transaction is taken off the front exactly if its encoding stands there, with lengths that
fit. -/
theorem run_take_iff {bytes rest : List UInt8} {t : Transaction} :
    take.run bytes = some (t, rest) ↔ bytes = t.encode ++ rest ∧ t.Fits := by
  refine ⟨fun h => takesOnly_take h, ?_⟩
  rintro ⟨rfl, hfits⟩
  exact reads_take hfits rest

/-- No encoding is the beginning of another one. -/
theorem eq_of_encode_append {t u : Transaction} (ht : t.Fits) (hu : u.Fits) {rest : List UInt8}
    (h : t.encode = u.encode ++ rest) : t = u ∧ rest = [] := by
  have hread : take.run t.encode = some (t, []) := run_take_iff.2 ⟨(List.append_nil _).symm, ht⟩
  rw [run_take_iff.2 ⟨h, hu⟩] at hread
  cases hread
  exact ⟨rfl, rfl⟩

/-- Bytes are accepted if they are no more than `sizeLimit`, and nothing is left over when a
transaction is taken. -/
theorem decode?_eq_some_run_iff {bytes : List UInt8} {t : Transaction} :
    decode? bytes = some t ↔ bytes.length ≤ sizeLimit ∧ take.run bytes = some (t, []) := by
  constructor
  · intro h
    unfold decode? at h
    split at h
    next hsize =>
      split at h
      next hread =>
        cases h
        exact ⟨hsize, hread⟩
      next => cases h
    next => cases h
  · rintro ⟨hsize, hread⟩
    rw [decode?, if_pos hsize, hread]

/-- Exactly the encodings that are no larger than `sizeLimit` are accepted. -/
theorem decode?_eq_some_iff {bytes : List UInt8} {t : Transaction} :
    decode? bytes = some t ↔ t.encode.length ≤ sizeLimit ∧ bytes = t.encode := by
  rw [decode?_eq_some_run_iff, run_take_iff, List.append_nil]
  constructor
  · rintro ⟨hsize, rfl, -⟩
    exact ⟨hsize, rfl⟩
  · rintro ⟨hsize, rfl⟩
    exact ⟨hsize, rfl, fits_of_length (Nat.lt_of_le_of_lt hsize (by decide))⟩

end StakeLedger.Transaction
