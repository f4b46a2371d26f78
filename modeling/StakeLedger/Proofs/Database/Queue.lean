import StakeLedger.Proofs.Database.Mirror

/-!
# The Queue in the Database

A table that holds the rows of a set of markers still does so when a marker is inserted or removed
on both sides. The due markers that come after a given one are the same, in the same order, because
rows are compared as the markers they stand for (`MarkerRow.compareKey_ofMarker`).
-/

namespace StakeLedger

namespace Database

variable {db : Database} {queue : SortedSet Marker}

/-- Inserting a marker leaves the tables other than `db.markers` alone. -/
theorem insertMarker_eq (db : Database) (row : MarkerRow) :
    db.insertMarker row = { db with markers := (db.insertMarker row).markers } := by
  rw [insertMarker]
  split <;> rfl

/-- The marker `m` has a row if and only if it is queued, since different markers have different
rows. -/
theorem ofMarker_mem_iff (h : db.markers.Perm (queue.elements.map .ofMarker)) {m : Marker} :
    MarkerRow.ofMarker m ∈ db.markers ↔ m ∈ queue := by
  rw [h.mem_iff, List.mem_map]
  constructor
  · rintro ⟨m', hm', hrow⟩
    rwa [MarkerRow.ofMarker_inj hrow] at hm'
  · intro hm
    exact ⟨m, hm, rfl⟩

/-- A marker is inserted on both sides: the table holds the rows of `queue.insert m` afterwards. -/
theorem markers_insertMarker (h : db.markers.Perm (queue.elements.map .ofMarker)) (m : Marker) :
    (db.insertMarker (.ofMarker m)).markers.Perm ((queue.insert m).elements.map .ofMarker) := by
  rw [insertMarker]
  split
  next hmem =>
    rwa [SortedSet.insert_of_mem ((ofMarker_mem_iff h).1 hmem)]
  next hmem =>
    have hnew : m ∉ queue := fun hm => hmem ((ofMarker_mem_iff h).2 hm)
    have hinsert := (queue.elements_insert m).map MarkerRow.ofMarker
    rw [SortedSet.erase_of_not_mem hnew] at hinsert
    exact (List.perm_append_singleton _ _).trans ((h.cons _).trans hinsert.symm)

/-- Rows that are selected by `p` are those of the markers that `q` selects, if the two agree. -/
theorem filter_ofMarker {rows : List MarkerRow} {markers : List Marker}
    (h : rows.Perm (markers.map .ofMarker)) {p : MarkerRow → Bool} {q : Marker → Bool}
    (hpq : ∀ m ∈ markers, p (.ofMarker m) = q m) :
    (rows.filter p).Perm ((markers.filter q).map .ofMarker) := by
  have hfilter := h.filter p
  rw [List.filter_map] at hfilter
  have hsame : markers.filter (p ∘ MarkerRow.ofMarker) = markers.filter q := List.filter_congr hpq
  rwa [hsame] at hfilter

/-- A marker is removed on both sides: the rows other than that of `m` are those of
`queue.erase m`. -/
theorem markers_filter (h : db.markers.Perm (queue.elements.map .ofMarker)) (m : Marker) :
    (db.markers.filter (· ≠ MarkerRow.ofMarker m)).Perm
      ((queue.erase m).elements.map .ofMarker) := by
  refine filter_ofMarker h (q := fun m' => compare m' m != .eq) fun m' _ => ?_
  rw [Bool.eq_iff_iff, decide_eq_true_iff, bne_iff_ne, Ne, Ne, Std.LawfulEqOrd.compare_eq_iff_eq]
  exact not_congr ⟨MarkerRow.ofMarker_inj, congrArg _⟩

/-- The first `limit` rows in order are read as the first `limit` markers in order, for rows are
compared as the markers they stand for. -/
theorem decode_mergeSort {rows : List MarkerRow} {markers : List Marker}
    (h : rows.Perm (markers.map .ofMarker))
    (hascending : markers.Pairwise fun a b => compare a b = .lt)
    (hstorable : ∀ m ∈ markers, IsStorableHeight m.expireHeight) (limit : Nat) :
    decodeAll MarkerRow.decode ((rows.mergeSort fun a b =>
      ((a.compareKey b).then (compare a.subState b.subState)).isLE).take limit) =
        .ok (markers.take limit) := by
  obtain ⟨unsorted, hperm, rfl⟩ := exists_map_eq_of_perm h
  have hcompare : ∀ a ∈ unsorted, ∀ b ∈ unsorted, (compare a b).isLE =
      (((MarkerRow.ofMarker a).compareKey (.ofMarker b)).then
        (compare (MarkerRow.ofMarker a).subState (MarkerRow.ofMarker b).subState)).isLE := by
    intro a ha b hb
    rw [MarkerRow.compareKey_ofMarker (hstorable a (hperm.mem_iff.1 ha))
      (hstorable b (hperm.mem_iff.1 hb))]
    -- the text of the path only counts for rows of the same marker
    cases hab : compare a b with
    | lt => rfl
    | gt => rfl
    | eq =>
      rw [Std.LawfulEqOrd.eq_of_compare hab, Std.ReflOrd.compare_self]
      rfl
  have hdecode : ∀ m ∈ markers.take limit, (MarkerRow.ofMarker m).decode = .ok (id m) :=
    fun m hm => MarkerRow.decode_ofMarker (hstorable m (List.mem_of_mem_take hm))
  rw [← List.map_mergeSort hcompare, mergeSort_eq_of_ascending hascending hperm, ← List.map_take,
    decodeAll_map hdecode, List.map_id]

namespace Mirrors

variable {s : MemoryStore}

/-- A database that has the rows of `queue` mirrors the store with this queue. -/
theorem writeQueue (h : db.Mirrors s) {rows : List MarkerRow}
    (hstorable : ∀ m ∈ queue, IsStorableHeight m.expireHeight)
    (hrows : rows.Perm (queue.elements.map .ofMarker)) :
    { db with markers := rows }.Mirrors { s with queue } where
  storable :=
    { keyed := h.storable.keyed
      records := h.storable.records
      queue := hstorable
      cursors := h.storable.cursors }
  delegations := h.delegations
  signatures := h.signatures
  markers := hrows
  cursors := h.cursors

/-- A marker is queued as in the memory store, with the same answer. -/
theorem saveMarker (h : db.Mirrors s) {m : Marker} (hm : IsStorableHeight m.expireHeight) :
    (if MarkerRow.ofMarker m ∈ db.markers then .alreadyExists else .inserted) = (s.saveMarker m).1 ∧
      (db.insertMarker (.ofMarker m)).Mirrors (s.saveMarker m).2 := by
  have hmem := ofMarker_mem_iff h.markers (m := m)
  rcases s.saveMarker_cases m with ⟨hqueued, hsave⟩ | ⟨hnew, hsave⟩
  · rw [hsave, insertMarker, if_pos (hmem.2 hqueued), if_pos (hmem.2 hqueued)]
    exact ⟨rfl, h⟩
  · rw [hsave, if_neg fun hrow => hnew (hmem.1 hrow), insertMarker_eq]
    refine ⟨rfl, h.writeQueue (fun m' hm' => ?_) (markers_insertMarker h.markers m)⟩
    rcases SortedSet.mem_insert_iff.1 hm' with rfl | hold
    · exact hm
    · exact h.storable.queue m' hold

/-- A marker is removed as in the memory store, with the same answer. -/
theorem deleteMarker (h : db.Mirrors s) (m : Marker) :
    (db.deleteMarker m).1 = (s.deleteMarker m).1 ∧
      (db.deleteMarker m).2.Mirrors (s.deleteMarker m).2 := by
  have hmem := ofMarker_mem_iff h.markers (m := m)
  rw [Database.deleteMarker]
  rcases s.deleteMarker_cases m with ⟨hnone, hdelete⟩ | ⟨hqueued, hdelete⟩
  · rw [hdelete, if_neg fun hrow => hnone (hmem.1 hrow)]
    exact ⟨rfl, h⟩
  · rw [hdelete, if_pos (hmem.2 hqueued)]
    refine ⟨rfl, h.writeQueue (fun m' hm' => ?_) (markers_filter h.markers m)⟩
    exact h.storable.queue m' (SortedSet.mem_erase_iff.1 hm').1

/-- The due markers behind `after` are listed as by the memory store, in the same order and cut off
at the same `limit`. -/
theorem dueMarkers (h : db.Mirrors s) {tip : Height} (htip : IsStorableHeight tip)
    {after : Option Marker} (hafter : ∀ m ∈ after, IsStorableHeight m.expireHeight) (limit : Nat) :
    db.dueMarkers tip after limit = .ok (s.dueMarkers tip after limit) := by
  have hascending := s.queue.ascending
  -- the due rows are those of the due markers, as heights compare like their columns
  have hdue := filter_ofMarker h.markers
    (p := fun r => (compare r.expireHeight (Column.encodeHeight tip)).isLE)
    (q := fun m => m.IsDue tip) fun m hm => by
      change (compare (Column.encodeHeight m.expireHeight) _).isLE = _
      rw [Column.compare_encodeHeight (h.storable.queue m hm) htip, Bool.eq_iff_iff,
        decide_eq_true_iff, Marker.IsDue, Std.isLE_compare]
  cases after with
  | none =>
    simp only [Database.dueMarkers, MemoryStore.dueMarkers, Marker.takeWhile_isDue tip hascending]
    exact decode_mergeSort hdue (hascending.filter _)
      (fun m hm => h.storable.queue m (List.mem_of_mem_filter hm)) limit
  | some a =>
    -- of these, the rows behind `a` are those of the markers behind it
    have hlater := filter_ofMarker hdue
      (p := fun r => (MarkerRow.ofMarker a).compareKey r = Ordering.lt)
      (q := fun m => compare a m = .lt) fun m hm => by
        rw [MarkerRow.compareKey_ofMarker (hafter a rfl)
          (h.storable.queue m (List.mem_of_mem_filter hm))]
    simp only [Database.dueMarkers, MemoryStore.dueMarkers,
      Marker.takeWhile_isDue tip (hascending.filter _), List.filter_comm]
    exact decode_mergeSort hlater ((hascending.filter _).filter _)
      (fun m hm => h.storable.queue m (List.mem_of_mem_filter (List.mem_of_mem_filter hm))) limit

end Mirrors

end Database

end StakeLedger
