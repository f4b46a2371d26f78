import StakeLedger.Bitcoin.Txid
import StakeLedger.Delegation.State

/-!
# Timelock Markers

A marker says that once the chain reaches a height, a delegation has to go through the expiry of one
of its spending paths. Markers are worked off in ascending order of height, then of transaction
identifier, then of path.

The position of a marker is a number that grows along that order (`position_lt_of_compare`), which
bounds how far a walk through the markers can go.
-/

namespace StakeLedger

/-- A height on the Bitcoin chain. The genesis block has height `0`. -/
abbrev Height := UInt64

/-- A length of time in blocks. -/
abbrev Blocks := UInt32

/-- A timelock that runs out at a height: from `expireHeight` on, the delegation `txid` has to go
through the expiry of the spending path `subState`. -/
structure Marker where
  /-- The first height at which the timelock has run out. -/
  expireHeight : Height
  /-- The delegation the timelock belongs to. -/
  txid : Txid
  /-- The spending path the timelock guards. -/
  subState : SubState
  deriving DecidableEq, Inhabited

namespace Marker

instance : Ord Marker :=
  ⟨compareLex (compareOn expireHeight) (compareLex (compareOn txid) (compareOn subState))⟩

instance : Std.TransOrd Marker :=
  inferInstanceAs (Std.TransCmp
    (compareLex (compareOn expireHeight) (compareLex (compareOn txid) (compareOn subState))))

/-- The order of markers, component by component: by height, then by transaction, then by path. -/
theorem compare_eq (a b : Marker) :
    compare a b = (compare a.expireHeight b.expireHeight).then
      ((compare a.txid b.txid).then (compare a.subState b.subState)) := rfl

instance : Std.LawfulEqOrd Marker where
  eq_of_compare {a b} h := by
    rw [compare_eq, Ordering.then_eq_eq, Ordering.then_eq_eq] at h
    cases a
    cases b
    simp only [Std.LawfulEqOrd.compare_eq_iff_eq] at h
    obtain ⟨rfl, rfl, rfl⟩ := h
    rfl

/-- The timelock of `m` has run out when the chain ends at `tip`. -/
def IsDue (m : Marker) (tip : Height) : Prop := m.expireHeight ≤ tip

instance (m : Marker) (tip : Height) : Decidable (m.IsDue tip) :=
  inferInstanceAs (Decidable (_ ≤ _))

/-- The place of the marker `m` among all possible markers, counted along their order. -/
def position (m : Marker) : Nat :=
  (m.expireHeight.toNat * Txid.count + m.txid.number.toNat) * 2 + m.subState.index

/-- The number of possible markers, which bounds every `position`. -/
def positions : Nat := UInt64.size * Txid.count * 2

/-- Every position is below the number of positions. -/
theorem position_lt (m : Marker) : m.position < positions := by
  have h := m.expireHeight.toNat_lt
  have t := m.txid.number.isLt
  have s : m.subState.index < 2 := by cases m.subState <;> decide
  simp only [position, positions, Txid.count, UInt64.size]
  omega

/-- A marker before another one has the lower position, so that `position` grows along the order. -/
theorem position_lt_of_compare {a b : Marker} (h : compare a b = .lt) :
    a.position < b.position := by
  have ta := a.txid.number.isLt
  have tb := b.txid.number.isLt
  have sa : a.subState.index < 2 := by cases a.subState <;> decide
  have sb : b.subState.index < 2 := by cases b.subState <;> decide
  rw [compare_eq, Ordering.then_eq_lt, Ordering.then_eq_lt] at h
  simp only [position, Txid.count]
  rcases h with h | ⟨he, h | ⟨ht, h⟩⟩
  -- a lower height outweighs any transaction and path
  · have h' : a.expireHeight < b.expireHeight := compareOfLessAndEq_eq_lt.1 h
    rw [UInt64.lt_iff_toNat_lt] at h'
    omega
  -- at one height, a lower transaction outweighs any path
  · have he' := Std.LawfulEqOrd.eq_of_compare he
    have h' : a.txid.number < b.txid.number := by
      have : compare a.txid.number b.txid.number = .lt := h
      exact compareOfLessAndEq_eq_lt.1 this
    rw [BitVec.lt_def] at h'
    rw [he']
    omega
  -- for one transaction, the paths decide
  · have he' := Std.LawfulEqOrd.eq_of_compare he
    have ht' := Std.LawfulEqOrd.eq_of_compare ht
    have h' : a.subState.index < b.subState.index := by
      have : compare a.subState.index b.subState.index = .lt := h
      exact compareOfLessAndEq_eq_lt.1 this
    rw [he', ht']
    omega

end Marker

end StakeLedger
