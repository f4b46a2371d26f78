/-!
# Finite Maps in Ascending Key Order

A `SortedMap` is a list of entries whose keys ascend strictly. Two maps that hold the same entries
are therefore equal, and listing a map needs no sorting. The order is the one of `compare`, which
has to be a lawful linear order wherever an entry is written.

The main statements say what is found after a write or a removal (`find?_insert`, `find?_erase`) and
which entries a write leaves (`mem_insert`).
-/

namespace StakeLedger

/-- A finite map whose entries are listed in strictly ascending key order, so that equal maps have
equal `entries`. -/
structure SortedMap (κ ν : Type) [Ord κ] where
  /-- The entries, least key first. -/
  entries : List (κ × ν)
  /-- Each key is below all the keys that follow it. -/
  ascending : entries.Pairwise fun a b => compare a.1 b.1 = .lt

namespace SortedMap

variable {κ ν : Type} [Ord κ]

instance [DecidableEq κ] [DecidableEq ν] : DecidableEq (SortedMap κ ν) := fun a b =>
  if h : a.entries = b.entries then
    isTrue (by cases a; cases b; simp only at h; subst h; rfl)
  else isFalse fun e => h (congrArg entries e)

/-- The map without entries. -/
def empty : SortedMap κ ν := ⟨[], .nil⟩

instance : Inhabited (SortedMap κ ν) := ⟨empty⟩

/-- Maps with the same `entries` are equal. -/
@[ext]
theorem ext {a b : SortedMap κ ν} (h : a.entries = b.entries) : a = b := by
  cases a
  cases b
  simp only at h
  subst h
  rfl

/-- The number of entries. -/
def size (m : SortedMap κ ν) : Nat := m.entries.length

/-- The keys of `m` in ascending order. -/
def keys (m : SortedMap κ ν) : List κ := m.entries.map (·.1)

/-- The values of `m` in ascending order of their keys. -/
def values (m : SortedMap κ ν) : List ν := m.entries.map (·.2)

/-- The value under `k` in a list of entries, if there is one. -/
def findEntry (k : κ) : List (κ × ν) → Option ν
  | [] => none
  | (k', v) :: rest => if compare k k' = .eq then some v else findEntry k rest

/-- The value that `m` holds under the key `k`, if there is one. -/
def find? (m : SortedMap κ ν) (k : κ) : Option ν := findEntry k m.entries

/-- Whether `m` holds a value under the key `k`. -/
def contains (m : SortedMap κ ν) (k : κ) : Bool := (m.find? k).isSome

/-- Puts the entry of `k` and `v` at its place in a list of entries, in place of one with the same
key. -/
def insertEntry (k : κ) (v : ν) : List (κ × ν) → List (κ × ν)
  | [] => [(k, v)]
  | (k', v') :: rest =>
    match compare k k' with
    | .lt => (k, v) :: (k', v') :: rest
    | .eq => (k, v) :: rest
    | .gt => (k', v') :: insertEntry k v rest

/-- An entry of a list after a write is `(k, v)` or an old one. -/
theorem mem_insertEntry {k : κ} {v : ν} {e : κ × ν} {l : List (κ × ν)} (h : e ∈ insertEntry k v l) :
    e = (k, v) ∨ e ∈ l := by
  induction l with
  | nil => simpa [insertEntry] using h
  | cons head rest ih =>
    obtain ⟨k', v'⟩ := head
    simp only [insertEntry] at h
    split at h
    · simpa using h
    · rcases List.mem_cons.1 h with rfl | h
      · exact .inl rfl
      · exact .inr (List.mem_cons_of_mem _ h)
    · rcases List.mem_cons.1 h with rfl | h
      · exact .inr List.mem_cons_self
      · exact (ih h).imp_right (List.mem_cons_of_mem _)

section Lawful

variable [Std.TransOrd κ] [Std.LawfulEqOrd κ]

/-- A write keeps the keys ascending, wherever the key `k` belongs. -/
theorem ascending_insertEntry (k : κ) (v : ν) {l : List (κ × ν)}
    (h : l.Pairwise fun a b => compare a.1 b.1 = .lt) :
    (insertEntry k v l).Pairwise fun a b => compare a.1 b.1 = .lt := by
  induction l with
  | nil => simp [insertEntry]
  | cons head rest ih =>
    obtain ⟨k', v'⟩ := head
    obtain ⟨hhead, hrest⟩ := List.pairwise_cons.1 h
    simp only [insertEntry]
    split
    next hlt =>
      -- the new key is below the head, and so below all that follow
      refine List.pairwise_cons.2 ⟨fun e he => ?_, h⟩
      rcases List.mem_cons.1 he with rfl | he
      · exact hlt
      · exact Std.TransCmp.lt_trans hlt (hhead e he)
    next heq =>
      have hk : k = k' := Std.LawfulEqOrd.eq_of_compare heq
      subst hk
      exact List.pairwise_cons.2 ⟨hhead, hrest⟩
    next hgt =>
      -- the head stays first: it is below the new key and below its own rest
      refine List.pairwise_cons.2 ⟨fun e he => ?_, ih hrest⟩
      rcases mem_insertEntry he with rfl | he
      · exact Std.OrientedCmp.lt_of_gt hgt
      · exact hhead e he

/-- The map after writing the value `v` under the key `k`. -/
def insert (m : SortedMap κ ν) (k : κ) (v : ν) : SortedMap κ ν :=
  ⟨insertEntry k v m.entries, ascending_insertEntry k v m.ascending⟩

/-- The map that holds the entries of `l`, the last one of each key. -/
def ofList (l : List (κ × ν)) : SortedMap κ ν :=
  l.foldl (fun m e => m.insert e.1 e.2) empty

/-- An entry of a map after a write is `(k, v)` or an old one. -/
theorem mem_insert {m : SortedMap κ ν} {k : κ} {v : ν} {e : κ × ν}
    (h : e ∈ (m.insert k v).entries) : e = (k, v) ∨ e ∈ m.entries :=
  mem_insertEntry h

/-- After a write, the key `k` holds the value `v`, and every other key what it held before. -/
theorem find?_insert (m : SortedMap κ ν) (k : κ) (v : ν) (k' : κ) :
    (m.insert k v).find? k' = if compare k' k = .eq then some v else m.find? k' := by
  simp only [find?, insert]
  induction m.entries with
  | nil => simp [insertEntry, findEntry]
  | cons head rest ih =>
    obtain ⟨j, w⟩ := head
    simp only [insertEntry]
    split
    · rfl
    next heq =>
      -- the head is written over
      have hk : k = j := Std.LawfulEqOrd.eq_of_compare heq
      subst hk
      simp only [findEntry]
      split <;> rfl
    next hgt =>
      -- the head stays, and decides only about its own key
      simp only [findEntry, ih]
      by_cases hj : compare k' j = .eq
      · have hk' : k' = j := Std.LawfulEqOrd.eq_of_compare hj
        subst hk'
        have hne : compare k' k ≠ .eq := by
          rw [Std.OrientedCmp.lt_of_gt hgt]
          decide
        simp [hne]
      · simp [hj]

end Lawful

/-- The map without the entry of the key `k`. -/
def erase (m : SortedMap κ ν) (k : κ) : SortedMap κ ν :=
  ⟨m.entries.filter fun e => compare e.1 k != .eq, m.ascending.filter _⟩

/-- After a removal, the key `k` holds nothing, and every other key what it held before. -/
theorem find?_erase [Std.TransOrd κ] [Std.LawfulEqOrd κ] (m : SortedMap κ ν) (k k' : κ) :
    (m.erase k).find? k' = if compare k' k = .eq then none else m.find? k' := by
  simp only [find?, erase]
  induction m.entries with
  | nil => simp [findEntry]
  | cons head rest ih =>
    obtain ⟨j, w⟩ := head
    by_cases hj : compare j k = .eq
    -- the head is dropped
    · have hjk : j = k := Std.LawfulEqOrd.eq_of_compare hj
      subst hjk
      simp only [List.filter_cons, hj, bne_self_eq_false, Bool.false_eq_true, ↓reduceIte, findEntry,
        ih]
      split <;> rfl
    -- the head stays, and its key is another one
    · simp only [List.filter_cons, bne_iff_ne, ne_eq, hj, not_false_eq_true, ↓reduceIte, findEntry,
        ih]
      by_cases hk : compare k' k = .eq
      · have hk' : k' = k := Std.LawfulEqOrd.eq_of_compare hk
        subst hk'
        have hne : compare k' j ≠ .eq := by
          intro h
          apply hj
          rw [Std.LawfulEqOrd.eq_of_compare h]
          exact Std.ReflCmp.compare_self
        simp [hne]
      · simp [hk]

end SortedMap

end StakeLedger
