import Mathlib.Data.List.Perm.Basic
import StakeLedger.Exchange.Form
import StakeLedger.Proofs.Data.Json

/-!
# Forms and Texts

A form is exact if what it writes is read back and can be told in JSON (`Form.IsExact`), so that it
is read back from its text, too (`Form.IsExact.readText?_writeText`). The general forms are exact if
the forms they are made of are.

A record is read by the fields that its layout names. It may have them in any order and have other
fields, too, and means the same as the list of their values (`Layout.read?_list`).
-/

namespace StakeLedger

variable {α β : Type}

/-- Reading a list by `l.mapM f` gives `bs` exactly if `f` reads the item of `bs` at each place of
`l`. -/
theorem mapM_eq_some_iff {f : α → Option β} {l : List α} {bs : List β} :
    l.mapM f = some bs ↔ l.map f = bs.map some := by
  induction l generalizing bs with
  | nil => cases bs <;> simp
  | cons a l ih => cases bs <;> simp [List.mapM_cons, Option.bind_eq_some_iff, ← ih]

namespace Form

/-- The text of `a`, as it is exchanged: the JSON text of the value `f.write a`. -/
def writeText (f : Form α) (a : α) : String := Json.text (f.write a)

/-- The value that the text `s` stands for: `f.read?` applied to the JSON value that `s` tells, if
it tells one. -/
def readText? (f : Form α) (s : String) : Option α := (Json.read? s).bind f.read?

/-- A form is exact if what it writes is read back, and JSON can tell it, nested to no more than
`depth`. -/
structure IsExact (f : Form α) (depth : Nat) : Prop where
  /-- Everything written is read back: `f.read? (f.write a) = some a`. -/
  lossless : f.IsLossless
  /-- Everything written is plain at `depth`: it has no numbers JSON cannot tell and no field
  twice. -/
  plain : ∀ a, (f.write a).IsPlain depth

/-- An exact form reads back the text that it writes. The depth `127` is the one to which texts are
read. -/
theorem IsExact.readText?_writeText {f : Form α} (h : f.IsExact 127) (a : α) :
    f.readText? (f.writeText a) = some a := by
  rw [readText?, writeText, Json.read?_text (h.plain a)]
  exact h.lossless a

theorem IsExact.isPlain {f : Form α} {depth depth' : Nat} (h : f.IsExact depth)
    (hle : depth ≤ depth') (a : α) :
    (f.write a).IsPlain depth' := (h.plain a).mono hle

/-- A form exact at `depth` is exact at any greater `depth'`. -/
theorem IsExact.mono {f : Form α} {depth depth' : Nat} (h : f.IsExact depth)
    (hle : depth ≤ depth') :
    f.IsExact depth' := ⟨h.lossless, h.isPlain hle⟩

/-! ## General Forms -/

/-- The form `word32` is exact: a 32-bit number is within what `Value.IsPlain` asks of numbers. -/
theorem isExact_word32 : word32.IsExact 0 where
  lossless := isLossless_word32
  plain n := by
    have hn := n.toNat_lt
    simp only [word32, Value.ofNat, Value.IsPlain, UInt64.size]
    omega

/-- The form `word64` is exact: `Value.IsPlain` asks no more of a number than to fit into 64
bits. -/
theorem isExact_word64 : word64.IsExact 0 where
  lossless := isLossless_word64
  plain n := by
    have hn := n.toNat_lt
    simp only [word64, Value.ofNat, Value.IsPlain, UInt64.size]
    omega

/-- The form `signed32` is exact: a negative number of 32 bits is within those that can be told,
too. -/
theorem isExact_signed32 : signed32.IsExact 0 where
  lossless := isLossless_signed32
  plain n := by
    have hleast : -2147483648 ≤ n.toInt := n.le_toInt
    have hmost : n.toInt ≤ 2147483647 := n.toInt_le
    simp only [signed32, Value.IsPlain, UInt64.size]
    omega

/-- The form `text` is exact: any text at all is plain. -/
theorem isExact_text : text.IsExact 0 := ⟨isLossless_text, fun s => by simp [text, Value.IsPlain]⟩

/-- Forms given by `spell` and `read?` are exact if `read?` reads back each spelling. -/
theorem isExact_spelled {spell : α → String} {read? : String → Option α}
    (h : ∀ a, read? (spell a) = some a) :
    (spelled spell read?).IsExact 0 :=
  ⟨isLossless_spelled h, fun a => by simp [spelled, Value.IsPlain]⟩

/-- The form `named all name` is exact if each value is the first one in `all` that has its name. -/
theorem isExact_named {all : List α} {name : α → String}
    (h : ∀ a, all.find? (name · = name a) = some a) :
    (named all name).IsExact 0 := ⟨h, fun a => by simp [named, Value.IsPlain]⟩

/-- An exact form stays exact when the value may be missing, if `f.write` never writes the `null`
that stands for that. -/
theorem IsExact.optional {f : Form α} {depth : Nat} (h : f.IsExact depth)
    (hnull : ∀ a, f.write a ≠ .null) :
    f.optional.IsExact depth where
  lossless := isLossless_optional h.lossless hnull
  plain
    | none => by simp [Form.optional, Value.IsPlain]
    | some a => h.plain a

/-- The lists of what an exact form writes are exact, one level deeper. -/
theorem IsExact.list {f : Form α} {depth : Nat} (h : f.IsExact depth) :
    f.list.IsExact (depth + 1) where
  lossless := isLossless_list h.lossless
  plain as := by
    intro v hv
    obtain ⟨a, -, rfl⟩ := List.mem_map.1 hv
    exact h.plain a

/-! ## Fields -/

/-- A required field is read as `a` if it has the value written for `a`. -/
@[simp]
theorem required_write {f : Form α} (h : f.IsLossless) (a : α) :
    f.required (some (f.write a)) = some a := h a

/-- A field with a `default` is read as `a`, not as the default, if it has the value written for
`a`. -/
@[simp]
theorem orDefault_write {f : Form α} (h : f.IsLossless) (default a : α) :
    f.orDefault default (some (f.write a)) = some a := h a

/-- A field that may be missing is read as `a`, be that `none` or not, if it has the value written
for `a`. -/
@[simp]
theorem orNone_write {f : Form α} (h : f.optional.IsLossless) (a : Option α) :
    f.orNone (some (f.optional.write a)) = some a := h a

end Form

/-! ## Records -/

namespace Layout

variable {l : Layout α} {fields : List (String × Value)} {values : List Value}

/-- The field `(name, v)` is found by its name if it is among the `fields` and no two of these share
a name. -/
theorem lookup_of_mem {name : String} {v : Value} (hnodup : (fields.map (·.1)).Nodup)
    (h : (name, v) ∈ fields) :
    fields.lookup name = some v := by
  induction fields with
  | nil => cases h
  | cons f fields ih =>
    obtain ⟨hf, hnodup⟩ := List.nodup_cons.1 hnodup
    rcases List.mem_cons.1 h with rfl | h
    · simp
    · have hne : (name == f.1) = false := by
        refine beq_eq_false_iff_ne.2 fun heq => hf ?_
        exact List.mem_map.2 ⟨_, h, heq⟩
      rw [List.lookup_cons, hne]
      exact ih hnodup h

/-- Leaving out the fields whose names are not in `names` does not change what is found under a
`name` that is. -/
theorem lookup_filter {names : List String} {name : String} (h : name ∈ names)
    (fields : List (String × Value)) :
    (fields.filter (·.1 ∈ names)).lookup name = fields.lookup name := by
  induction fields with
  | nil => rfl
  | cons f fields ih =>
    obtain ⟨other, v⟩ := f
    by_cases hf : other ∈ names
    · simp [hf, List.lookup_cons, ih]
    · have hne : (name == other) = false := beq_eq_false_iff_ne.2 fun heq => hf (heq ▸ h)
      simp [hf, List.lookup_cons, hne, ih]

/-- The fields `names.zip values` have the `names` for names, if there is a value for each. -/
theorem map_fst_zip_eq {names : List String} (hlength : values.length = names.length) :
    (names.zip values).map (·.1) = names := List.map_fst_zip (Nat.le_of_eq hlength.symm)

/-- Looking up each of the `names` in `names.zip values` gives the `values`, if the names differ. -/
theorem map_lookup_zip {names : List String} (hnodup : names.Nodup)
    (hlength : values.length = names.length) :
    names.map (fun name => (names.zip values).lookup name) = values.map some := by
  induction names generalizing values with
  | nil =>
    obtain rfl := List.length_eq_zero_iff.1 hlength
    rfl
  | cons name names ih =>
    cases values with
    | nil => cases hlength
    | cons v values =>
      obtain ⟨hname, hnodup⟩ := List.nodup_cons.1 hnodup
      -- the first name is not looked up again behind it
      have hrest : names.map (fun n => ((name, v) :: names.zip values).lookup n) =
          names.map fun n => (names.zip values).lookup n := by
        refine List.map_congr_left fun n hn => ?_
        have hne : (n == name) = false := beq_eq_false_iff_ne.2 fun heq => hname (heq ▸ hn)
        rw [List.lookup_cons, hne]
      rw [List.zip_cons_cons, List.map_cons, hrest, ih hnodup (Nat.succ.inj hlength)]
      simp

/-- The record with the `fields` gives the `values` to the `names`: it has each of these fields
once, in any order, and possibly fields of other names. -/
def Gives (names : List String) (values : List Value) (fields : List (String × Value)) : Prop :=
  (fields.filter (·.1 ∈ names)).Perm (names.zip values)

/-- Looking up the `names` in a record that gives the `values` to them finds these values. -/
theorem Gives.map_lookup {names : List String} (h : Gives names values fields)
    (hnodup : names.Nodup) (hlength : values.length = names.length) :
    names.map (fun name => fields.lookup name) = values.map some := by
  rw [← map_lookup_zip hnodup hlength]
  refine List.map_congr_left fun name hname => ?_
  have hzip : ((names.zip values).map (·.1)).Nodup := by rwa [map_fst_zip_eq hlength]
  have hfields : ((fields.filter (·.1 ∈ names)).map (·.1)).Nodup := (h.map _).nodup_iff.2 hzip
  rw [← map_fst_zip_eq hlength] at hname
  obtain ⟨⟨name, v⟩, hmem, rfl⟩ := List.mem_map.1 hname
  have hknown : name ∈ names := (List.of_mem_zip hmem).1
  rw [lookup_of_mem hzip hmem, ← lookup_filter hknown]
  exact lookup_of_mem hfields (h.mem_iff.2 hmem)

/-- The record `names.zip values` gives the `values` to the `names`, having them in this order and
nothing else. -/
theorem gives_zip {names : List String} (values : List Value) :
    Gives names values (names.zip values) := by
  have hknown : (names.zip values).filter (·.1 ∈ names) = names.zip values := by
    refine List.filter_eq_self.2 fun f hf => ?_
    simpa using (List.of_mem_zip hf).1
  rw [Gives, hknown]

/-- The record with the `fields` stands for the `values` that it gives to `l.names`, unless the
layout is `closed` and there is a field of another name. -/
theorem fields?_record (hnodup : l.names.Nodup) (hlength : values.length = l.names.length)
    (h : Gives l.names values fields) (hclosed : l.closed = true → ∀ f ∈ fields, f.1 ∈ l.names) :
    l.fields? (.record fields) = some (values.map some) := by
  have hallowed : (l.closed && !fields.all (l.names.contains ·.1)) = false := by
    cases hc : l.closed with
    | false => rfl
    | true =>
      have hall : fields.all (l.names.contains ·.1) = true :=
        List.all_eq_true.2 fun f hf => by simpa using hclosed hc f hf
      rw [hall]
      rfl
  rw [fields?, hallowed, h.map_lookup hnodup hlength]
  rfl

/-- A list of as many `values` as the layout `l` has names stands for these values. -/
theorem fields?_list (hlength : values.length = l.names.length)
    (hleast : l.least ≤ l.names.length) :
    l.fields? (.list values) = some (values.map some) := by
  have htake : values.take l.names.length = values := by rw [← hlength, List.take_length]
  rw [fields?, if_pos ⟨by omega, .inr (Nat.le_of_eq hlength)⟩, htake]
  simp [hlength]

/-- The list of the `values` is read as any record is that gives them to `l.names`. -/
theorem read?_list (l : Layout α) (hnodup : l.names.Nodup) (hleast : l.least ≤ l.names.length)
    (hlength : values.length = l.names.length) (h : Gives l.names values fields)
    (hclosed : l.closed = true → ∀ f ∈ fields, f.1 ∈ l.names) :
    l.form.read? (.list values) = l.form.read? (.record fields) := by
  show (l.fields? _).bind l.ofFields = (l.fields? _).bind l.ofFields
  rw [fields?_list hlength hleast, fields?_record hnodup hlength h hclosed]

/-- The form of a layout is exact if its names differ, `l.values a` are as many plain values as
there are names, and `l.ofFields` makes `a` of them again. -/
theorem isExact_form {depth : Nat} (hnodup : l.names.Nodup)
    (hlength : ∀ a, (l.values a).length = l.names.length)
    (hplain : ∀ a, ∀ v ∈ l.values a, v.IsPlain depth)
    (hread : ∀ a, l.ofFields ((l.values a).map some) = some a) :
    l.form.IsExact (depth + 1) where
  lossless a := by
    show (l.fields? (.record (l.names.zip (l.values a)))).bind l.ofFields = some a
    rw [fields?_record hnodup (hlength a) (gives_zip _) fun _ f hf => (List.of_mem_zip hf).1]
    exact hread a
  plain a := by
    refine ⟨?_, fun f hf => hplain a _ (List.of_mem_zip hf).2⟩
    rwa [map_fst_zip_eq (hlength a)]

end Layout

end StakeLedger
