import StakeLedger.Data.Value

/-!
# Forms

A form says how values of a type are written as structured values and how they are read back.
Reading accepts more than writing produces: a record may have its fields in any order, further ones,
or none where there is a default, and it may be given as the list of its fields. Such a list may be
longer than the record only where a form leaves room for it.

A form is lossless if everything written is read back (`Form.IsLossless`); the lemmas here say so of
the general forms.
-/

namespace StakeLedger

/-- How values of type `α` are written as structured values and read back. -/
structure Form (α : Type) where
  write : α → Value
  /-- The value that a structured value stands for, if it stands for one. -/
  read? : Value → Option α

namespace Form

variable {α : Type}

/-- Everything written is read back: `read?` undoes `write`. -/
def IsLossless (f : Form α) : Prop := ∀ a, f.read? (f.write a) = some a

/-- Numbers of 32 bits, without a sign. -/
def word32 : Form UInt32 where
  write n := .ofNat n.toNat
  read? v := v.nat?.bind fun n => if n < UInt32.size then some (UInt32.ofNat n) else none

/-- Numbers of 64 bits, without a sign. -/
def word64 : Form UInt64 where
  write n := .ofNat n.toNat
  read? v := v.nat?.bind fun n => if n < UInt64.size then some (UInt64.ofNat n) else none

/-- Signed numbers of 32 bits, as integers. -/
def signed32 : Form Int32 where
  write n := .integer n.toInt
  read?
    | .integer n =>
      if Int32.minValue.toInt ≤ n ∧ n ≤ Int32.maxValue.toInt then some (Int32.ofInt n) else none
    | _ => none

/-- Texts, which are exchanged as they are. -/
def text : Form String where
  write := .text
  read? := Value.text?

/-- Values that are exchanged as texts, written by `spell` and read by `read?`. -/
def spelled (spell : α → String) (read? : String → Option α) : Form α where
  write a := .text (spell a)
  read? v := v.text?.bind read?

/-- Values of the small type whose values are `all`, which are exchanged by `name`. A name may also
stand in a record, in front of `null`. -/
def named (all : List α) (name : α → String) : Form α where
  write a := .text (name a)
  read?
    | .text s => all.find? (name · = s)
    | .record [(s, .null)] => all.find? (name · = s)
    | _ => none

/-- Values that may be missing; `null` is written for one that is. -/
def optional (f : Form α) : Form (Option α) where
  write
    | some a => f.write a
    | none => .null
  read?
    | .null => some none
    | v => (f.read? v).map some

/-- Lists of values, each of them in the form `f`. -/
def list (f : Form α) : Form (List α) where
  write as := .list (as.map f.write)
  read? v := v.items?.bind fun items => items.mapM f.read?

/-- Numbers of 32 bits are read back. -/
theorem isLossless_word32 : word32.IsLossless := by
  intro n
  have h := n.toNat_lt
  show (if n.toNat < UInt32.size then some (UInt32.ofNat n.toNat) else none) = some n
  rw [if_pos h, UInt32.ofNat_toNat]

/-- Numbers of 64 bits are read back. -/
theorem isLossless_word64 : word64.IsLossless := by
  intro n
  have h := n.toNat_lt
  show (if n.toNat < UInt64.size then some (UInt64.ofNat n.toNat) else none) = some n
  rw [if_pos h, UInt64.ofNat_toNat]

/-- Signed numbers of 32 bits are read back. -/
theorem isLossless_signed32 : signed32.IsLossless := by
  intro n
  have hl := n.le_toInt
  have hu := n.toInt_le
  show (if Int32.minValue.toInt ≤ n.toInt ∧ n.toInt ≤ Int32.maxValue.toInt then
    some (Int32.ofInt n.toInt) else none) = some n
  rw [if_pos ⟨hl, hu⟩, Int32.ofInt_toInt]

/-- Texts are read back. -/
theorem isLossless_text : text.IsLossless := fun _ => rfl

/-- Values are read back if `read?` undoes `spell`. -/
theorem isLossless_spelled {spell : α → String} {read? : String → Option α}
    (h : ∀ a, read? (spell a) = some a) : (spelled spell read?).IsLossless := h

/-- Optional values are read back if something other than `null` is written for each value. -/
theorem isLossless_optional {f : Form α} (h : f.IsLossless) (hnull : ∀ a, f.write a ≠ .null) :
    f.optional.IsLossless
  | none => rfl
  | some a => by
    have hread := h a
    have hne := hnull a
    simp only [optional]
    -- the value written is not the one that stands for a missing value
    generalize f.write a = v at hread hne
    cases v <;> simp_all

/-- Lists are read back if their items are. -/
theorem isLossless_list {f : Form α} (h : f.IsLossless) : f.list.IsLossless := by
  intro as
  show (as.map f.write).mapM f.read? = some as
  induction as with
  | nil => rfl
  | cons a as ih => simp [List.mapM_cons, h a, ih]

end Form

/-- How the values of type `α` are laid out as records of named fields. -/
structure Layout (α : Type) where
  /-- The names of the fields in order. -/
  names : List String
  /-- How many fields a list has to give at least; the ones that follow have defaults. -/
  least : Nat := names.length
  /-- Whether a record may have no fields but those of `names`. -/
  closed : Bool := false
  /-- Whether a list of the fields may have further items than `names`. -/
  roomy : Bool := false
  /-- The values of the fields `names`, in order. -/
  values : α → List Value
  /-- The value of given fields, some of which may be missing. -/
  ofFields : List (Option Value) → Option α

namespace Layout

variable {α : Type}

/-- The fields that a structured value gives for the layout `l`, in the order of `l.names`. -/
def fields? (l : Layout α) : Value → Option (List (Option Value))
  | .record fields =>
    if l.closed && !fields.all (l.names.contains ·.1) then none
    else some (l.names.map fun name => fields.lookup name)
  | .list items =>
    -- the last fields may be left out if they have defaults
    if l.least ≤ items.length ∧ (l.roomy ∨ items.length ≤ l.names.length) then
      let given := items.take l.names.length
      some (given.map some ++ List.replicate (l.names.length - given.length) none)
    else none
  | _ => none

/-- The form of records with the layout `l`. -/
def form (l : Layout α) : Form α where
  write a := .record (l.names.zip (l.values a))
  read? v := (l.fields? v).bind l.ofFields

end Layout

namespace Form

variable {α : Type}

/-- Reads a `field` that has to be given. -/
def required (f : Form α) (field : Option Value) : Option α := field.bind f.read?

/-- Reads a field whose value is `default` if it is missing. -/
def orDefault (f : Form α) (default : α) : Option Value → Option α
  | none => some default
  | some v => f.read? v

/-- Reads an optional field, for which to be missing and to be `null` is the same. -/
def orNone (f : Form α) (field : Option Value) : Option (Option α) :=
  f.optional.read? (field.getD .null)

end Form

end StakeLedger
