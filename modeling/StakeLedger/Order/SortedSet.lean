/-!
# Finite Sets in Ascending Order

A `SortedSet` is a strictly ascending list of elements, so that sets with the same elements are
equal and a set is listed in order. The main statement is `mem_insert_iff`.
-/

namespace StakeLedger

/-- A finite set whose elements are listed in strictly ascending order, so that equal sets have
equal `elements`. -/
structure SortedSet (α : Type) [Ord α] where
  /-- The elements, least first. -/
  elements : List α
  /-- Each element is below all that follow it. -/
  ascending : elements.Pairwise fun a b => compare a b = .lt

namespace SortedSet

variable {α : Type} [Ord α]

instance [DecidableEq α] : DecidableEq (SortedSet α) := fun a b =>
  if h : a.elements = b.elements then
    isTrue (by cases a; cases b; simp only at h; subst h; rfl)
  else isFalse fun e => h (congrArg elements e)

/-- The set without elements. -/
def empty : SortedSet α := ⟨[], .nil⟩

instance : Inhabited (SortedSet α) := ⟨empty⟩

/-- Sets with the same `elements` in the same order are equal. -/
@[ext]
theorem ext {a b : SortedSet α} (h : a.elements = b.elements) : a = b := by
  cases a
  cases b
  simp only at h
  subst h
  rfl

instance : Membership α (SortedSet α) := ⟨fun s a => a ∈ s.elements⟩

instance [DecidableEq α] (a : α) (s : SortedSet α) : Decidable (a ∈ s) :=
  inferInstanceAs (Decidable (a ∈ s.elements))

/-- The number of elements. -/
def size (s : SortedSet α) : Nat := s.elements.length

/-- Puts the element `a` at its place in an ascending list, unless it is there already. -/
def insertElement (a : α) : List α → List α
  | [] => [a]
  | b :: rest =>
    match compare a b with
    | .lt => a :: b :: rest
    | .eq => b :: rest
    | .gt => b :: insertElement a rest

section Lawful

variable [Std.TransOrd α] [Std.LawfulEqOrd α]

omit [Std.TransOrd α] in
/-- The elements of a list after an insertion are `a` and the old ones. -/
theorem mem_insertElement {a x : α} {l : List α} : x ∈ insertElement a l ↔ x = a ∨ x ∈ l := by
  induction l with
  | nil => simp [insertElement]
  | cons b rest ih =>
    simp only [insertElement]
    split
    · simp
    next heq =>
      have hab : a = b := Std.LawfulEqOrd.eq_of_compare heq
      subst hab
      simp
    · simp only [List.mem_cons, ih]
      constructor
      · rintro (h | h | h)
        · exact .inr (.inl h)
        · exact .inl h
        · exact .inr (.inr h)
      · rintro (h | h | h)
        · exact .inr (.inl h)
        · exact .inl h
        · exact .inr (.inr h)

/-- An insertion keeps the elements ascending, wherever the element `a` belongs. -/
theorem ascending_insertElement (a : α) {l : List α} (h : l.Pairwise fun a b => compare a b = .lt) :
    (insertElement a l).Pairwise fun a b => compare a b = .lt := by
  induction l with
  | nil => simp [insertElement]
  | cons b rest ih =>
    obtain ⟨hhead, hrest⟩ := List.pairwise_cons.1 h
    simp only [insertElement]
    split
    next hlt =>
      -- the new element is below the head, and so below all that follow
      refine List.pairwise_cons.2 ⟨fun x hx => ?_, h⟩
      rcases List.mem_cons.1 hx with rfl | hx
      · exact hlt
      · exact Std.TransCmp.lt_trans hlt (hhead x hx)
    next => exact h
    next hgt =>
      -- the head stays first: it is below the new element and below its own rest
      refine List.pairwise_cons.2 ⟨fun x hx => ?_, ih hrest⟩
      rcases mem_insertElement.1 hx with rfl | hx
      · exact Std.OrientedCmp.lt_of_gt hgt
      · exact hhead x hx

/-- The set `s` with the element `a` added. -/
def insert (s : SortedSet α) (a : α) : SortedSet α :=
  ⟨insertElement a s.elements, ascending_insertElement a s.ascending⟩

/-- The set of the elements of the list `l`, each once. -/
def ofList (l : List α) : SortedSet α := l.foldl insert empty

/-- The members after an insertion are `a` and the old members. -/
theorem mem_insert_iff {s : SortedSet α} {a x : α} : x ∈ s.insert a ↔ x = a ∨ x ∈ s :=
  mem_insertElement

end Lawful

/-- The set `s` without the element `a`. -/
def erase (s : SortedSet α) (a : α) : SortedSet α :=
  ⟨s.elements.filter fun b => compare b a != .eq, s.ascending.filter _⟩

end SortedSet

end StakeLedger
