import StakeLedger.Proofs.Database.Mirror

/-!
# Cursors in the Database

A cursor is read as from the memory store. Advancing it gives the same answer on either side, and
afterwards the database mirrors the memory store again unless the version has come to two to the
63rd.
-/

namespace StakeLedger

namespace Column

/-- The number `n + 1` is stored in place of `n` if it is below `2 ^ 63`; beyond, `Datum.next` would
make a floating-point number of it. -/
theorem next_integer {n : UInt64} (h : n.toNat + 1 < 2 ^ 63) :
    Datum.next (.integer n.toInt64) = .integer (n + 1).toInt64 := by
  have hsmall : n.toNat < 2 ^ 63 := Nat.lt_of_succ_lt h
  have hne : n.toInt64 ≠ Int64.maxValue := by
    intro heq
    have hint := congrArg Int64.toInt heq
    rw [toInt_toInt64 hsmall, Int64.toInt_maxValue] at hint
    omega
  rw [Datum.next, if_neg hne, UInt64.toInt64_add]
  rfl

end Column

theorem CursorRow.decode_ofCursor {name : String} {c : Cursor} (h : c.IsStorable) :
    (ofCursor name c).decode = .ok c := by
  simp only [ofCursor, decode, Column.decodeHeight_encodeHeight h.height]
  change (if c.version.toInt64 < 0 then _ else _) = _
  rw [if_neg (Column.not_toInt64_neg h.version_lt), UInt64.toUInt64_toInt64]
  rfl

/-- A cursor has version zero exactly as long as it has not been advanced, because the cursors that
are kept have a positive version. -/
theorem MemoryStore.IsStorable.version_eq_zero_iff {s : MemoryStore} (h : s.IsStorable)
    {name : String} :
    (s.cursor name).version = 0 ↔ s.cursors.find? name = none := by
  rw [cursor]
  cases hc : s.cursors.find? name with
  | none => exact ⟨fun _ => rfl, fun _ => rfl⟩
  | some c =>
    have hpos := (h.cursors name c hc).version_pos
    rw [Option.getD_some]
    constructor
    · intro hzero
      rw [hzero] at hpos
      cases hpos
    · intro hnone
      cases hnone

/-- The version of a cursor is below `2 ^ 63`, whether or not it was ever advanced. -/
theorem MemoryStore.IsStorable.version_lt {s : MemoryStore} (h : s.IsStorable) (name : String) :
    (s.cursor name).version.toNat < 2 ^ 63 := by
  rw [cursor]
  cases hc : s.cursors.find? name with
  | none => decide
  | some c => exact (h.cursors name c hc).version_lt

theorem Cursor.toNat_next {n : UInt64} (h : n.toNat + 1 < UInt64.size) :
    (n + 1).toNat = n.toNat + 1 := by
  rw [UInt64.toNat_add]
  exact Nat.mod_eq_of_lt h

namespace Database.Mirrors

variable {db : Database} {s : MemoryStore}

theorem mem_cursors_iff (h : db.Mirrors s) {row : CursorRow} :
    row ∈ db.cursors ↔ ∃ name c, s.cursors.find? name = some c ∧ .ofCursor name c = row := by
  simp only [h.cursors.mem_iff, List.mem_map, Prod.exists, SortedMap.mem_entries_iff]

/-- The row that is found under a name is that of its cursor. -/
theorem cursorRow_eq (h : db.Mirrors s) (name : String) :
    db.cursors.find? (·.name = name) = (s.cursors.find? name).map (.ofCursor name) := by
  refine find?_eq_of_unique (fun row hrow hname => ?_) fun row hrow => ?_
  · obtain ⟨name', c, hc, rfl⟩ := h.mem_cursors_iff.1 hrow
    obtain rfl : name' = name := of_decide_eq_true hname
    rw [hc]
    rfl
  · obtain ⟨c, hc, rfl⟩ := Option.map_eq_some_iff.1 hrow
    exact ⟨h.mem_cursors_iff.2 ⟨name, c, hc, rfl⟩, decide_eq_true rfl⟩

/-- A cursor is read as from the memory store: `s.cursor name`. -/
theorem getCursor (h : db.Mirrors s) (name : String) : db.getCursor name = .ok (s.cursor name) := by
  rw [Database.getCursor, h.cursorRow_eq, MemoryStore.cursor]
  cases hc : s.cursors.find? name with
  | none => rfl
  | some c => exact CursorRow.decode_ofCursor (h.storable.cursors name c hc)

/-- The name has a row if and only if the cursor was ever advanced. -/
theorem any_name_iff (h : db.Mirrors s) {name : String} :
    db.cursors.any (·.name = name) = true ↔ ∃ c, s.cursors.find? name = some c := by
  rw [List.any_eq_true]
  constructor
  · rintro ⟨row, hrow, hname⟩
    obtain ⟨name', c, hc, rfl⟩ := h.mem_cursors_iff.1 hrow
    obtain rfl : name' = name := of_decide_eq_true hname
    exact ⟨c, hc⟩
  · rintro ⟨c, hc⟩
    exact ⟨_, h.mem_cursors_iff.2 ⟨name, c, hc, rfl⟩, decide_eq_true rfl⟩

/-- The row of the cursor `c` is at `version` under `name` if it has this name and this version. -/
theorem isAt_ofCursor {name name' : String} {c : Cursor} {version : UInt64} :
    isAt name version (.ofCursor name' c) = true ↔ name' = name ∧ c.version = version := by
  rw [isAt, Bool.and_eq_true, decide_eq_true_iff, decide_eq_true_iff]
  refine and_congr_right fun _ => ⟨fun heq => ?_, fun heq => congrArg _ (congrArg _ heq)⟩
  exact Column.toInt64_inj (Datum.integer.inj heq)

/-- There is a row at `version` under `name` if and only if the cursor of this name has this
version. -/
theorem any_isAt_iff (h : db.Mirrors s) {name : String} {version : UInt64} :
    db.cursors.any (isAt name version) = true ↔
      ∃ c, s.cursors.find? name = some c ∧ c.version = version := by
  rw [List.any_eq_true]
  constructor
  · rintro ⟨row, hrow, hat⟩
    obtain ⟨name', c, hc, rfl⟩ := h.mem_cursors_iff.1 hrow
    obtain ⟨rfl, hversion⟩ := isAt_ofCursor.1 hat
    exact ⟨c, hc, hversion⟩
  · rintro ⟨c, hc, hversion⟩
    exact ⟨_, h.mem_cursors_iff.2 ⟨name, c, hc, rfl⟩, isAt_ofCursor.2 ⟨rfl, hversion⟩⟩

/-- The cursor `c` is written on both sides: if `rows` are its row and those of the other cursors,
the database with these rows mirrors the store in which `c` has been inserted. -/
theorem writeCursor (h : db.Mirrors s) {name : String} {c : Cursor} (hc : c.IsStorable)
    {rows : List CursorRow}
    (hrows : rows.Perm (.ofCursor name c ::
      (s.cursors.erase name).entries.map fun e => .ofCursor e.1 e.2)) :
    { db with cursors := rows }.Mirrors { s with cursors := s.cursors.insert name c } where
  storable :=
    { keyed := h.storable.keyed
      records := h.storable.records
      queue := h.storable.queue
      cursors := fun name' c' hc' => by
        by_cases hname : name' = name
        · rw [hname, SortedMap.find?_insert_self] at hc'
          rwa [← Option.some.inj hc']
        · rw [SortedMap.find?_insert_of_ne _ _ hname] at hc'
          exact h.storable.cursors name' c' hc' }
  delegations := h.delegations
  signatures := h.signatures
  markers := h.markers
  cursors := by
    have hinsert := s.cursors.entries_insert name c
    exact hrows.trans (hinsert.map fun e : String × Cursor => CursorRow.ofCursor e.1 e.2).symm

/-- The update of the rows at `c.version` leaves the row of the advanced cursor beside those of the
other cursors. -/
theorem cursors_map (h : db.Mirrors s) {name : String} {c : Cursor}
    (hc : s.cursors.find? name = some c) (height : Height) (hbound : c.version.toNat + 1 < 2 ^ 63) :
    (db.cursors.map fun r => if isAt name c.version r then
      { r with height := Column.encodeHeight height, version := r.version.next } else r).Perm
        (.ofCursor name ⟨height, c.version + 1⟩ ::
          (s.cursors.erase name).entries.map fun e => .ofCursor e.1 e.2) := by
  have hrows := h.cursors.trans ((SortedMap.entries_of_find? hc).map fun e : String × Cursor =>
    CursorRow.ofCursor e.1 e.2)
  have hmap := hrows.map fun r => if isAt name c.version r then
    { r with height := Column.encodeHeight height, version := r.version.next } else r
  rw [List.map_cons, List.map_cons, if_pos (isAt_ofCursor.2 ⟨rfl, rfl⟩), List.map_map] at hmap
  have hnext : { CursorRow.ofCursor name c with
      height := Column.encodeHeight height
      version := Datum.next (.integer c.version.toInt64) } =
          .ofCursor name ⟨height, c.version + 1⟩ := by
    rw [Column.next_integer hbound]
    rfl
  -- the others have other names
  have hothers : ∀ e ∈ (s.cursors.erase name).entries,
      (if isAt name c.version (.ofCursor e.1 e.2) then
        { CursorRow.ofCursor e.1 e.2 with
          height := Column.encodeHeight height
          version := (CursorRow.ofCursor e.1 e.2).version.next }
        else .ofCursor e.1 e.2) = CursorRow.ofCursor e.1 e.2 := by
    intro e he
    refine if_neg fun hat => ?_
    have hfound := SortedMap.mem_entries_iff.1 he
    rw [(isAt_ofCursor.1 hat).1, SortedMap.find?_erase, if_pos Std.ReflOrd.compare_self] at hfound
    cases hfound
  exact hmap.trans (.of_eq (congrArg₂ List.cons hnext (List.map_congr_left hothers)))

/-- A cursor is advanced from the version `expected` that it has. Afterwards the database mirrors
the memory store again if the next version is below `2 ^ 63`. -/
theorem advanceCursor_current (h : db.Mirrors s) {name : String} {expected : UInt64}
    {height : Height} (hheight : IsStorableHeight height)
    (hversion : (s.cursor name).version = expected) :
    (db.advanceCursor name expected height).1 = .ok (.advanced ⟨height, expected + 1⟩) ∧
      ((expected + 1).toNat < 2 ^ 63 → (db.advanceCursor name expected height).2.Mirrors
        { s with cursors := s.cursors.insert name ⟨height, expected + 1⟩ }) := by
  have hstart : (s.cursor name).version = 0 ↔ _ := h.storable.version_eq_zero_iff
  have hcurrent : expected.toNat < 2 ^ 63 := hversion ▸ h.storable.version_lt name
  have hnext : (expected + 1).toNat = expected.toNat + 1 :=
    Cursor.toNat_next (Nat.lt_trans (Nat.succ_lt_succ hcurrent) (by decide))
  have hstorable : (expected + 1).toNat < 2 ^ 63 → Cursor.IsStorable ⟨height, expected + 1⟩ :=
    fun hbound => ⟨hheight, Nat.lt_of_lt_of_eq (Nat.succ_pos _) hnext.symm, hbound⟩
  rw [Database.advanceCursor]
  by_cases hzero : expected = 0
  -- a cursor that starts is inserted as a new row
  · have hnone := hstart.1 (hversion.trans hzero)
    have hany : ¬db.cursors.any (·.name = name) = true := by
      rw [h.any_name_iff, hnone]
      nofun
    rw [if_pos hzero, if_neg hany]
    refine ⟨by rw [hzero], fun hbound => h.writeCursor (hstorable hbound) ?_⟩
    rw [SortedMap.erase_of_find? hnone, hzero]
    exact (List.perm_append_singleton _ _).trans (h.cursors.cons _)
  -- any other is advanced in its row
  · obtain ⟨c, hc⟩ : ∃ c, s.cursors.find? name = some c :=
      Option.ne_none_iff_exists'.1 fun hnone => hzero (hversion ▸ hstart.2 hnone)
    obtain rfl : c.version = expected := by
      rwa [MemoryStore.cursor, hc] at hversion
    rw [if_neg hzero, if_pos (h.any_isAt_iff.2 ⟨c, hc, rfl⟩)]
    exact ⟨rfl, fun hbound => h.writeCursor (hstorable hbound)
      (h.cursors_map hc height (hnext ▸ hbound))⟩

/-- A cursor is not advanced from a version that it does not have; the database is left as it is and
the answer holds the cursor there is. -/
theorem advanceCursor_stale (h : db.Mirrors s) {name : String} {expected : UInt64} (height : Height)
    (hversion : (s.cursor name).version ≠ expected) :
    db.advanceCursor name expected height = (.ok (.stale (s.cursor name)), db) := by
  have hstart : (s.cursor name).version = 0 ↔ _ := h.storable.version_eq_zero_iff
  have hstale : (db.getCursor name).map CursorOutcome.stale = .ok (.stale (s.cursor name)) := by
    rw [h.getCursor name]
    rfl
  rw [Database.advanceCursor]
  -- version `0` asks for the first row of the cursor, any other one for a row that has it
  by_cases hzero : expected = 0
  · have hany : db.cursors.any (·.name = name) = true :=
      h.any_name_iff.2 (Option.ne_none_iff_exists'.1 fun hnone =>
        hversion ((hstart.2 hnone).trans hzero.symm))
    rw [if_pos hzero, if_pos hany, hstale]
  · have hany : ¬db.cursors.any (isAt name expected) = true := by
      rw [h.any_isAt_iff]
      rintro ⟨c, hc, hat⟩
      rw [MemoryStore.cursor, hc] at hversion
      exact hversion hat
    rw [if_neg hzero, if_neg hany, hstale]

/-- A cursor is advanced as in the memory store, with the same answer in either case, and both sides
agree afterwards unless its version has come to `2 ^ 63`. -/
theorem advanceCursor (h : db.Mirrors s) (name : String) (expected : UInt64) {height : Height}
    (hheight : IsStorableHeight height) :
    (db.advanceCursor name expected height).1 = .ok (s.advanceCursor name expected height).1 ∧
      (((s.advanceCursor name expected height).2.cursor name).version.toNat < 2 ^ 63 →
        (db.advanceCursor name expected height).2.Mirrors
        (s.advanceCursor name expected height).2) := by
  rcases s.advanceCursor_cases name expected height with ⟨hversion, hadvance⟩ | ⟨hversion, hadvance⟩
  · have hafter : ({ s with cursors := s.cursors.insert name ⟨height, expected + 1⟩ } :
        MemoryStore).cursor name = ⟨height, expected + 1⟩ := by
      rw [MemoryStore.cursor, SortedMap.find?_insert_self]
      rfl
    rw [hadvance, hafter]
    exact h.advanceCursor_current hheight hversion
  · rw [hadvance, h.advanceCursor_stale height hversion]
    exact ⟨rfl, fun _ => h⟩

/-- After the update, the row that is found for the cursor `c` has the new `height` and the number
after its version. -/
theorem cursorRow_map (h : db.Mirrors s) {name : String} {c : Cursor}
    (hc : s.cursors.find? name = some c) (height : Height) :
    (db.cursors.map fun r => if isAt name c.version r then
      { r with height := Column.encodeHeight height, version := r.version.next } else r).find?
        (·.name = name) =
        some ⟨name, Column.encodeHeight height, Datum.next (.integer c.version.toInt64)⟩ := by
  let advance : CursorRow → CursorRow := fun r => if isAt name c.version r then
    { r with height := Column.encodeHeight height, version := r.version.next } else r
  have hname : ∀ r, (advance r).name = r.name := by
    intro r
    simp only [advance]
    split <;> rfl
  change (db.cursors.map advance).find? _ = _
  rw [List.find?_map]
  simp only [Function.comp_def, hname]
  rw [h.cursorRow_eq, hc, Option.map_some, Option.map_some]
  exact congrArg some (if_pos (isAt_ofCursor.2 ⟨rfl, rfl⟩))

/-- A cursor that is advanced to version `2 ^ 63` cannot be read any more: its version is stored as
a floating-point number, which the reader refuses. -/
theorem getCursor_overflow (h : db.Mirrors s) {name : String} {c : Cursor}
    (hc : s.cursors.find? name = some c) (hlast : c.version.toNat + 1 = 2 ^ 63) {height : Height}
    (hheight : IsStorableHeight height) :
    (db.advanceCursor name c.version height).2.getCursor name =
      .error (.driver (.column "version" (.notInteger .version .real))) := by
  have hnonzero : c.version ≠ 0 := by
    intro hzero
    rw [hzero] at hlast
    cases hlast
  have hmax : c.version.toInt64 = Int64.maxValue := by
    rw [← Int64.toInt_inj, Column.toInt_toInt64 (by omega), Int64.toInt_maxValue]
    omega
  -- one more than the largest integer is stored as a real number
  have hreal : ∃ x, Datum.next (.integer c.version.toInt64) = .real x := by
    rw [Datum.next, if_pos hmax]
    exact ⟨_, rfl⟩
  obtain ⟨x, hx⟩ := hreal
  rw [Database.advanceCursor, if_neg hnonzero, if_pos (h.any_isAt_iff.2 ⟨c, hc, rfl⟩),
    Database.getCursor, h.cursorRow_map hc height, hx]
  simp only [CursorRow.decode, Column.decodeHeight_encodeHeight hheight]
  rfl

end Database.Mirrors

end StakeLedger
