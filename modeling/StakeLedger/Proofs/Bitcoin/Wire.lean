import Mathlib.Algebra.Group.Nat.Defs
import StakeLedger.Bitcoin.Wire

/-!
# Reading Back the Wire Form

A reader reads bytes as a value if it takes exactly these bytes, whatever follows (`Wire.Reads`).
Readers in sequence read bytes in sequence (`Reads.bind`), so that a reader of a compound is shown
to read what is written for it part by part. Integers, lengths, strings of bytes and counted lists
are read from their own wire form.
-/

namespace StakeLedger.Wire

variable {α β γ : Type}

/-- The reader `r` takes `bytes` off the front as the value `a`, whatever follows them. -/
def Reads (r : Reader α) (bytes : List UInt8) (a : α) : Prop :=
  ∀ rest, r.run (bytes ++ rest) = some (a, rest)

theorem Reads.pure (a : α) : Reads (pure a) [] a := fun _ => rfl

/-- Readers in sequence read bytes in sequence: `r >>= f` reads `bytes ++ bytes'`. -/
theorem Reads.bind {r : Reader α} {f : α → Reader β} {bytes bytes' : List UInt8} {a : α} {b : β}
    (h : Reads r bytes a) (h' : Reads (f a) bytes' b) : Reads (r >>= f) (bytes ++ bytes') b := by
  intro rest
  rw [List.append_assoc, StateT.run_bind, h]
  exact h' rest

/-- A reader that takes nothing more may follow: `Reads.bind` with `bytes' = []`. -/
theorem Reads.bind_nil {r : Reader α} {f : α → Reader β} {bytes : List UInt8} {a : α} {b : β}
    (h : Reads r bytes a) (h' : Reads (f a) [] b) : Reads (r >>= f) bytes b := by
  have hbind := h.bind h'
  rwa [List.append_nil] at hbind

/-- The value `a` that is read may be put to use as `g a`. -/
theorem Reads.ret {r : Reader α} {bytes : List UInt8} {a : α} (h : Reads r bytes a) (g : α → β) :
    Reads (r >>= fun a => Pure.pure (g a)) bytes (g a) :=
  h.bind_nil (Reads.pure (g a))

/-! ## Integers -/

/-- An integer takes as many bytes as it is given: `littleEndian width n` has `width` of them. -/
@[simp]
theorem length_littleEndian (width n : Nat) : (littleEndian width n).length = width := by
  induction width generalizing n with
  | zero => rfl
  | succ width ih => rw [littleEndian, List.length_cons, ih]

/-- The `width` bytes of `n` stand for `n % 256 ^ width`. -/
theorem ofLittleEndian_littleEndian (width n : Nat) :
    ofLittleEndian (littleEndian width n) = n % 256 ^ width := by
  induction width generalizing n with
  | zero => rw [littleEndian, ofLittleEndian, Nat.pow_zero, Nat.mod_one]
  | succ width ih =>
    have hsplit : n % (256 * 256 ^ width) = n % 256 + 256 * (n / 256 % 256 ^ width) := Nat.mod_mul
    have hbyte : (UInt8.ofNat n).toNat = n % 256 := UInt8.toNat_ofNat'
    rw [littleEndian, ofLittleEndian, ih, hbyte, Nat.pow_succ', hsplit]

/-- The reader `takeBytes` takes as many bytes as it is told to, and returns them. -/
theorem reads_takeBytes (bytes : List UInt8) : Reads (takeBytes bytes.length) bytes bytes := by
  intro rest
  change takeBytes bytes.length (bytes ++ rest) = some (bytes, rest)
  rw [takeBytes, if_pos (by rw [List.length_append]; exact Nat.le_add_right _ _), List.take_left,
    List.drop_left]

/-- An integer is read back from `littleEndian width n` if `n < 256 ^ width`. -/
theorem reads_takeNat (width : Nat) {n : Nat} (h : n < 256 ^ width) :
    Reads (takeNat width) (littleEndian width n) n := by
  have hbytes := (reads_takeBytes (littleEndian width n)).ret ofLittleEndian
  rw [length_littleEndian, ofLittleEndian_littleEndian, Nat.mod_eq_of_lt h] at hbytes
  exact hbytes

/-! ## Lengths and Lists -/

/-- A length below `2 ^ 64` is read back from its shortest form, `compactSize n`. -/
theorem reads_takeCompactSize {n : Nat} (h : n < UInt64.size) :
    Reads takeCompactSize (compactSize n) n := by
  -- the longer forms differ in their marker, their width and the least number they hold
  have hlong : ∀ marker width least, marker < 256 → ¬marker < 253 →
      (if marker = 253 then (2, 253)
        else if marker = 254 then (4, UInt16.size) else (8, UInt32.size)) =
        (width, least) → n < 256 ^ width → least ≤ n →
      Reads takeCompactSize (UInt8.ofNat marker :: littleEndian width n) n := by
    intro marker width least hmarker hlarge hform hn hleast
    have hmark := reads_takeNat 1 (n := marker) hmarker
    refine hmark.bind ?_
    rw [if_neg hlarge, hform]
    refine (reads_takeNat width hn).bind_nil ?_
    rw [if_pos hleast]
    exact Reads.pure n
  rw [compactSize]
  split
  next hlt =>
    have hmark := reads_takeNat 1 (n := n) (Nat.lt_trans hlt (by decide))
    refine hmark.bind_nil ?_
    rw [if_pos hlt]
    exact Reads.pure n
  next h253 =>
    split
    next hlt => exact hlong 253 2 253 (by decide) (by decide) rfl hlt (Nat.le_of_not_lt h253)
    next h16 =>
      split
      next hlt =>
        exact hlong 254 4 UInt16.size (by decide) (by decide) rfl hlt (Nat.le_of_not_lt h16)
      next h32 => exact hlong 255 8 UInt32.size (by decide) (by decide) rfl h (Nat.le_of_not_lt h32)

theorem reads_takeByteString {bytes : List UInt8} (h : bytes.length < UInt64.size) :
    Reads takeByteString (byteString bytes) bytes :=
  (reads_takeCompactSize h).bind (reads_takeBytes bytes)

/-- Items are read one after another. What is read of an item, `read a`, may differ from what was
written for it, as the inputs without their witnesses do. -/
theorem reads_takeCount {item : Reader β} {write : α → List UInt8} {read : α → β} {as : List α}
    (h : ∀ a ∈ as, Reads item (write a) (read a)) :
    Reads (takeCount item as.length) (as.flatMap write) (as.map read) := by
  induction as with
  | nil => exact Reads.pure []
  | cons a as ih =>
    obtain ⟨ha, has⟩ := List.forall_mem_cons.1 h
    rw [List.flatMap_cons, List.map_cons]
    exact ha.bind ((ih has).ret (read a :: ·))

/-- A list is read back from its length and its items, under the same assumptions as in
`reads_takeCount`. -/
theorem reads_takeList {item : Reader β} {write : α → List UInt8} {read : α → β} {as : List α}
    (hlength : as.length < UInt64.size) (h : ∀ a ∈ as, Reads item (write a) (read a)) :
    Reads (takeList item) (list write as) (as.map read) :=
  (reads_takeCompactSize hlength).bind (reads_takeCount h)

/-! ## Sizes -/

/-- A length takes at least one byte. -/
theorem length_compactSize_pos (n : Nat) : 0 < (compactSize n).length := by
  rw [compactSize]
  split
  · exact Nat.one_pos
  · split
    · exact Nat.succ_pos _
    · split <;> exact Nat.succ_pos _

/-- A string of bytes is shorter than its wire form, which begins with the length. -/
theorem length_lt_length_byteString (bytes : List UInt8) :
    bytes.length < (byteString bytes).length := by
  have hpos := length_compactSize_pos bytes.length
  rw [byteString, List.length_append]
  omega

/-- The wire form `write a` of an item is not longer than that of its list. -/
theorem length_le_length_list {write : α → List UInt8} {as : List α} {a : α} (h : a ∈ as) :
    (write a).length ≤ (list write as).length := by
  have hsublist : (write a).Sublist (as.flatMap write) :=
    List.sublist_flatten_of_mem (List.mem_map_of_mem h)
  rw [list, List.length_append]
  exact Nat.le_add_left_of_le hsublist.length_le

/-- If every item takes at least one byte, a list has no more items than its wire form has bytes. -/
theorem length_items_le_length_list {write : α → List UInt8} (h : ∀ a, 0 < (write a).length)
    (as : List α) : as.length ≤ (list write as).length := by
  have hitems : as.length ≤ (as.flatMap write).length := by
    induction as with
    | nil => exact Nat.le_refl _
    | cons a as ih =>
      have ha := h a
      rw [List.length_cons, List.flatMap_cons, List.length_append]
      omega
  rw [list, List.length_append]
  exact Nat.le_add_left_of_le hitems

end StakeLedger.Wire
