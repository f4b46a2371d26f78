import Mathlib.Data.List.Induction
import Mathlib.Data.List.Perm.Subperm
import StakeLedger.Order.SortedMap
import StakeLedger.Order.SortedSet

/-!
# Listing Sets and Maps

A set is determined by its members and a map by what is found in it, because both are listed in
strictly ascending order. A set or a map is therefore recovered from its members or entries in any
order (`SortedSet.ofList_elements`, `SortedMap.ofList_of_perm`), and what an insertion does to the
list is known up to the order (`SortedSet.elements_insert`, `SortedMap.entries_insert`).
-/

namespace StakeLedger

variable {α κ ν : Type}

theorem nodup_of_ascending [Ord α] [Std.TransOrd α] {l : List α}
    (h : l.Pairwise fun a b => compare a b = .lt) : l.Nodup := by
  refine h.imp fun {a b} hlt heq => ?_
  have hself : compare b b = .eq := Std.ReflCmp.compare_self
  rw [heq, hself] at hlt
  cases hlt

/-- No element `a` of a list in strictly ascending order is above its `last` one. -/
theorem not_lt_of_getLast? [Ord α] [Std.TransOrd α] {l : List α} {last a : α}
    (h : l.Pairwise fun a b => compare a b = .lt) (hlast : l.getLast? = some last) (ha : a ∈ l) :
    compare last a ≠ .lt := by
  obtain ⟨front, rfl⟩ := List.getLast?_eq_some_iff.1 hlast
  rcases List.mem_append.1 ha with hfront | ha
  · have hbelow := (List.pairwise_append.1 h).2.2 a hfront last (List.mem_singleton_self last)
    rw [Std.OrientedCmp.gt_of_lt hbelow]
    decide
  · have hself : compare last last = .eq := Std.ReflCmp.compare_self
    rw [List.mem_singleton.1 ha, hself]
    decide

/-- Lists in strictly ascending order, compared by `f`, are equal if they have the same elements. -/
theorem eq_of_ascending {β : Type} {f : α → β} [Ord β] [Std.TransOrd β] {l l' : List α}
    (h : l.Pairwise fun a b => compare (f a) (f b) = .lt)
    (h' : l'.Pairwise fun a b => compare (f a) (f b) = .lt) (hperm : l.Perm l') : l = l' := by
  refine hperm.eq_of_pairwise (fun a b _ _ hab hba => ?_) h h'
  -- no element is both below and above another one
  rw [Std.OrientedCmp.gt_of_lt hab] at hba
  cases hba

/-- What sorting by `cmp` makes of a list is in the order `cmp`. -/
theorem pairwise_mergeSort_compare {cmp : α → α → Ordering} [Std.TransCmp cmp] (l : List α) :
    (l.mergeSort fun a b => (cmp a b).isLE).Pairwise fun a b => (cmp a b).isLE := by
  refine List.pairwise_mergeSort (fun _ _ _ => Std.TransCmp.isLE_trans) (fun a b => ?_) l
  have hswap : cmp b a = (cmp a b).swap := Std.OrientedCmp.eq_swap
  rw [hswap]
  cases cmp a b <;> rfl

/-- The `first` element of a sorted list comes before the others. -/
theorem isLE_of_mergeSort_cons {cmp : α → α → Ordering} [Std.TransCmp cmp] {l rest : List α}
    {first a : α} (h : l.mergeSort (fun a b => (cmp a b).isLE) = first :: rest) (ha : a ∈ l) :
    (cmp first a).isLE := by
  have hsorted : (l.mergeSort fun a b => (cmp a b).isLE).Pairwise fun a b => (cmp a b).isLE :=
    pairwise_mergeSort_compare l
  have hmem := (List.mergeSort_perm l fun a b => (cmp a b).isLE).mem_iff.2 ha
  rw [h] at hsorted hmem
  rcases List.mem_cons.1 hmem with rfl | hrest
  · have hself : cmp a a = .eq := Std.ReflCmp.compare_self
    rw [hself]
    rfl
  · exact (List.pairwise_cons.1 hsorted).1 a hrest

/-- A list in strictly ascending order is what sorting makes of its elements in any order. -/
theorem mergeSort_eq_of_ascending [Ord α] [Std.TransOrd α] [Std.LawfulEqOrd α] {l l' : List α}
    (h : l.Pairwise fun a b => compare a b = .lt) (hperm : l'.Perm l) :
    (l'.mergeSort fun a b => (compare a b).isLE) = l := by
  refine ((List.mergeSort_perm _ _).trans hperm).eq_of_pairwise (fun a b _ _ hab hba => ?_)
    (pairwise_mergeSort_compare l') ?_
  · exact Std.LawfulEqOrd.eq_of_compare (Std.OrientedCmp.isLE_antisymm hab hba)
  · exact h.imp fun hlt => by rw [hlt]; rfl

namespace SortedSet

variable [Ord α] [Std.TransOrd α] [Std.LawfulEqOrd α]

omit [Std.TransOrd α] in
/-- The members of `s.erase a` are those of `s` apart from `a`. -/
theorem mem_erase_iff {s : SortedSet α} {a x : α} : x ∈ s.erase a ↔ x ∈ s ∧ x ≠ a := by
  change x ∈ s.elements.filter _ ↔ x ∈ s.elements ∧ x ≠ a
  rw [List.mem_filter, bne_iff_ne, Ne, Std.LawfulEqOrd.compare_eq_iff_eq]

omit [Std.LawfulEqOrd α] in
theorem eq_of_mem_iff {s t : SortedSet α} (h : ∀ a, a ∈ s ↔ a ∈ t) : s = t := by
  have hperm : s.elements.Perm t.elements :=
    (List.perm_ext_iff_of_nodup (nodup_of_ascending s.ascending)
      (nodup_of_ascending t.ascending)).2 h
  exact SortedSet.ext (eq_of_ascending (f := id) s.ascending t.ascending hperm)

/-- The members of the set `ofList l` are the elements of `l`. -/
theorem mem_ofList {l : List α} {a : α} : a ∈ ofList l ↔ a ∈ l := by
  -- for any set that the elements are added to
  have hfold : ∀ (l : List α) (s : SortedSet α), a ∈ l.foldl insert s ↔ a ∈ s ∨ a ∈ l := by
    intro l
    induction l with
    | nil => intro s; simp
    | cons b l ih =>
      intro s
      rw [List.foldl_cons, ih, mem_insert_iff, List.mem_cons]
      constructor
      · rintro ((rfl | hs) | hl)
        · exact .inr (.inl rfl)
        · exact .inl hs
        · exact .inr (.inr hl)
      · rintro (hs | rfl | hl)
        · exact .inl (.inr hs)
        · exact .inl (.inl rfl)
        · exact .inr hl
  rw [ofList, hfold]
  exact or_iff_right List.not_mem_nil

theorem ofList_elements (s : SortedSet α) : ofList s.elements = s :=
  eq_of_mem_iff fun _ => mem_ofList

/-- A member is not inserted again. -/
theorem insert_of_mem {s : SortedSet α} {a : α} (h : a ∈ s) : s.insert a = s := by
  refine eq_of_mem_iff fun b => ?_
  rw [mem_insert_iff]
  constructor
  · rintro (rfl | hb)
    · exact h
    · exact hb
  · exact .inr

/-- The member `a` that is inserted comes to the other ones. -/
theorem elements_insert (s : SortedSet α) (a : α) :
    (s.insert a).elements.Perm (a :: (s.erase a).elements) := by
  have hnew : a ∉ s.erase a := fun h => (mem_erase_iff.1 h).2 rfl
  have hnodup : (a :: (s.erase a).elements).Nodup :=
    List.nodup_cons.2 ⟨hnew, nodup_of_ascending (s.erase a).ascending⟩
  refine (List.perm_ext_iff_of_nodup (nodup_of_ascending (s.insert a).ascending) hnodup).2 fun b =>
    ?_
  change b ∈ s.insert a ↔ _
  rw [mem_insert_iff, List.mem_cons]
  by_cases hb : b = a
  · exact ⟨fun _ => .inl hb, fun _ => .inl hb⟩
  · have herase : b ∈ s.erase a ↔ b ∈ s := by
      rw [mem_erase_iff]
      exact and_iff_left hb
    exact or_congr_right herase.symm

theorem size_erase {s : SortedSet α} {a : α} (h : a ∈ s) : (s.erase a).size + 1 = s.size := by
  have hperm := elements_insert s a
  rw [insert_of_mem h] at hperm
  exact hperm.length_eq.symm

/-- What is no member need not be removed. -/
theorem erase_of_not_mem {s : SortedSet α} {a : α} (h : a ∉ s) : s.erase a = s := by
  refine eq_of_mem_iff fun b => ?_
  rw [mem_erase_iff]
  constructor
  · exact And.left
  · intro hb
    refine ⟨hb, fun heq => h ?_⟩
    rwa [← heq]

end SortedSet

namespace SortedMap

variable [Ord κ] [Std.TransOrd κ] [Std.LawfulEqOrd κ]

/-- What is written under the key `k` is found under it. -/
theorem find?_insert_self (m : SortedMap κ ν) (k : κ) (v : ν) :
    (m.insert k v).find? k = some v := by
  rw [find?_insert, if_pos Std.ReflCmp.compare_self]

/-- What is found under `k'` does not depend on what is written under another key `k`. -/
theorem find?_insert_of_ne (m : SortedMap κ ν) {k k' : κ} (v : ν) (h : k' ≠ k) :
    (m.insert k v).find? k' = m.find? k' := by
  rw [find?_insert, if_neg fun e => h (Std.LawfulEqOrd.eq_of_compare e)]

omit [Std.TransOrd κ] [Std.LawfulEqOrd κ] in
theorem contains_eq_true_iff {m : SortedMap κ ν} {k : κ} :
    m.contains k = true ↔ ∃ v, m.find? k = some v := Option.isSome_iff_exists

omit [Std.LawfulEqOrd κ] in
theorem nodup_keys (m : SortedMap κ ν) : m.keys.Nodup :=
  nodup_of_ascending (List.pairwise_map.2 m.ascending)

omit [Std.LawfulEqOrd κ] in
theorem nodup_entries (m : SortedMap κ ν) : m.entries.Nodup :=
  List.Pairwise.of_map _ (fun _ _ hne heq => hne (congrArg _ heq)) m.nodup_keys

omit [Std.TransOrd κ] in
/-- What `findEntry` finds under `k` in a list of entries is one of them. -/
theorem mem_of_findEntry {k : κ} {v : ν} {l : List (κ × ν)} (h : findEntry k l = some v) :
    (k, v) ∈ l := by
  induction l with
  | nil => cases h
  | cons e l ih =>
    rw [findEntry] at h
    split at h
    next heq =>
      obtain rfl := Std.LawfulEqOrd.eq_of_compare heq
      obtain rfl := Option.some.inj h
      exact List.mem_cons_self
    next => exact List.mem_cons_of_mem _ (ih h)

/-- Of entries in strictly ascending order, each is found. -/
theorem findEntry_of_mem {k : κ} {v : ν} {l : List (κ × ν)}
    (h : l.Pairwise fun a b => compare a.1 b.1 = .lt) (hmem : (k, v) ∈ l) :
    findEntry k l = some v := by
  induction l with
  | nil => cases hmem
  | cons e l ih =>
    obtain ⟨hhead, hrest⟩ := List.pairwise_cons.1 h
    rw [findEntry]
    rcases List.mem_cons.1 hmem with rfl | hmem
    · rw [if_pos Std.ReflCmp.compare_self]
    · have hlt := hhead _ hmem
      have hne : compare k e.1 ≠ .eq := by
        rw [Std.OrientedCmp.gt_of_lt hlt]
        decide
      rw [if_neg hne]
      exact ih hrest hmem

theorem mem_entries_iff {m : SortedMap κ ν} {k : κ} {v : ν} :
    (k, v) ∈ m.entries ↔ m.find? k = some v :=
  ⟨findEntry_of_mem m.ascending, mem_of_findEntry⟩

theorem eq_of_find? {m m' : SortedMap κ ν} (h : ∀ k, m.find? k = m'.find? k) : m = m' := by
  have hperm : m.entries.Perm m'.entries := by
    refine (List.perm_ext_iff_of_nodup m.nodup_entries m'.nodup_entries).2 fun e => ?_
    rw [mem_entries_iff, mem_entries_iff, h]
  exact SortedMap.ext (eq_of_ascending (f := Prod.fst) m.ascending m'.ascending hperm)

/-- If no key is listed twice in `l`, the map `ofList l` holds its entries. -/
theorem find?_ofList {l : List (κ × ν)} (h : (l.map (·.1)).Nodup) {k : κ} {v : ν} :
    (ofList l).find? k = some v ↔ (k, v) ∈ l := by
  induction l using List.reverseRecOn with
  | nil => exact ⟨nofun, nofun⟩
  | append_singleton l e ih =>
    obtain ⟨k', v'⟩ := e
    rw [List.map_append, List.nodup_append] at h
    obtain ⟨hl, -, hnew⟩ := h
    -- the last entry is inserted into the map of the others
    have hinsert : ofList (l ++ [(k', v')]) = (ofList l).insert k' v' := by
      rw [ofList, List.foldl_append]
      rfl
    rw [hinsert, List.mem_append, List.mem_singleton, Prod.mk.injEq]
    by_cases hk : k = k'
    · subst hk
      rw [find?_insert, if_pos Std.ReflCmp.compare_self, Option.some.injEq]
      constructor
      · intro heq
        exact .inr ⟨rfl, heq.symm⟩
      · rintro (hmem | ⟨-, rfl⟩)
        · exact absurd rfl (hnew _ (List.mem_map_of_mem hmem) _ (List.mem_singleton_self _))
        · rfl
    · rw [find?_insert, if_neg fun heq => hk (Std.LawfulEqOrd.eq_of_compare heq), ih hl]
      constructor
      · exact .inl
      · rintro (hmem | ⟨rfl, -⟩)
        · exact hmem
        · exact absurd rfl hk

/-- A map is the map of its entries in any order. -/
theorem ofList_of_perm {l : List (κ × ν)} {m : SortedMap κ ν} (h : l.Perm m.entries) :
    ofList l = m := by
  have hnodup : (l.map (·.1)).Nodup := (h.map _).nodup_iff.2 m.nodup_keys
  refine eq_of_find? fun k => Option.ext fun v => ?_
  rw [find?_ofList hnodup, h.mem_iff, mem_entries_iff]

/-- The entry `(k, v)` that is written comes to those of other keys. -/
theorem entries_insert (m : SortedMap κ ν) (k : κ) (v : ν) :
    (m.insert k v).entries.Perm ((k, v) :: (m.erase k).entries) := by
  have hself : (m.erase k).find? k = none := by
    rw [find?_erase, if_pos Std.ReflCmp.compare_self]
  have hnew : (k, v) ∉ (m.erase k).entries := by
    rw [mem_entries_iff, hself]
    nofun
  have hnodup : ((k, v) :: (m.erase k).entries).Nodup :=
    List.nodup_cons.2 ⟨hnew, (m.erase k).nodup_entries⟩
  -- neither list repeats an entry, so that the same members are enough
  refine (List.perm_ext_iff_of_nodup (m.insert k v).nodup_entries hnodup).2 fun e => ?_
  obtain ⟨k', v'⟩ := e
  rw [mem_entries_iff, find?_insert, List.mem_cons, mem_entries_iff, find?_erase, Prod.mk.injEq]
  by_cases hk : k' = k
  · rw [hk, if_pos Std.ReflCmp.compare_self, if_pos Std.ReflCmp.compare_self, Option.some.injEq,
      eq_comm]
    simp
  · have hne : compare k' k ≠ .eq := fun heq => hk (Std.LawfulEqOrd.eq_of_compare heq)
    rw [if_neg hne, if_neg hne]
    simp [hk]

/-- The entry of a key `k` that is in use comes to those of other keys. -/
theorem entries_of_find? {m : SortedMap κ ν} {k : κ} {v : ν} (h : m.find? k = some v) :
    m.entries.Perm ((k, v) :: (m.erase k).entries) := by
  -- writing what is already there changes nothing
  have hsame : m.insert k v = m := by
    refine eq_of_find? fun k' => ?_
    rw [find?_insert]
    split
    next heq => rw [Std.LawfulEqOrd.eq_of_compare heq, h]
    next => rfl
  have hinsert := m.entries_insert k v
  rwa [hsame] at hinsert

/-- A key that is not in use need not be removed. -/
theorem erase_of_find? {m : SortedMap κ ν} {k : κ} (h : m.find? k = none) : m.erase k = m := by
  refine eq_of_find? fun k' => ?_
  rw [find?_erase]
  split
  next heq => rw [Std.LawfulEqOrd.eq_of_compare heq, h]
  next => rfl

theorem size_insert {m : SortedMap κ ν} {k : κ} (h : m.find? k = none) (v : ν) :
    (m.insert k v).size = m.size + 1 := by
  rw [size, (m.entries_insert k v).length_eq, erase_of_find? h]
  rfl

/-- A map in which more is found has more keys. -/
theorem keys_subperm {m m' : SortedMap κ ν} (h : ∀ k v, m.find? k = some v → m'.find? k = some v) :
    m.keys.Subperm m'.keys := by
  refine List.subperm_of_subset m.nodup_keys fun k hk => ?_
  obtain ⟨⟨k, v⟩, he, rfl⟩ := List.mem_map.1 hk
  exact List.mem_map.2 ⟨(k, v), mem_entries_iff.2 (h k v (mem_entries_iff.1 he)), rfl⟩

/-- A map in which more is found is no smaller, by `keys_subperm`. -/
theorem size_le_of_find? {m m' : SortedMap κ ν}
    (h : ∀ k v, m.find? k = some v → m'.find? k = some v) : m.size ≤ m'.size := by
  simpa [keys, size] using (keys_subperm h).length_le

/-- The keys of a map are those that it contains. -/
theorem mem_keys_iff {m : SortedMap κ ν} {k : κ} : k ∈ m.keys ↔ m.contains k = true := by
  rw [contains_eq_true_iff, keys, List.mem_map]
  constructor
  · rintro ⟨⟨k, v⟩, he, rfl⟩
    exact ⟨v, mem_entries_iff.1 he⟩
  · rintro ⟨v, hv⟩
    exact ⟨(k, v), mem_entries_iff.2 hv, rfl⟩

theorem contains_insert_iff {m : SortedMap κ ν} {k k' : κ} {v : ν} :
    (m.insert k v).contains k' = true ↔ k' = k ∨ m.contains k' = true := by
  by_cases h : k' = k
  · subst h
    simp [contains, find?_insert_self]
  · simp [contains, find?_insert_of_ne _ _ h, h]

end SortedMap

end StakeLedger
