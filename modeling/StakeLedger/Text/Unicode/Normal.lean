import StakeLedger.Text.Unicode.CombiningClass
import StakeLedger.Text.Unicode.Composition

/-!
# Composed Texts

The same text can be written with composed characters or with their parts, and with marks in
different orders. The composed form of a text is one of these for all: everything is split, marks
are put into the order of their classes, and what can be composed is. Characters that stand for one
other character are not looked at here; in names they have been replaced before.

The main statement is that ordering marks only moves characters (`orderMarks_perm`).
-/

namespace StakeLedger.Unicode

/-- The characters that the character `c` is made of, split at most `fuel` times. -/
def splitWholly : (fuel : Nat) → Char → List Char
  | 0, c => [c]
  | fuel + 1, c =>
    match split? c with
    | some (first, second) => splitWholly fuel first ++ [second]
    | none => [c]

/-- How often a character can be split at most. -/
def splitLimit : Nat := 4

/-- Puts the character `c` in front of the marks that do not have a lower class. -/
def insertMark (c : Char) : List Char → List Char
  | [] => [c]
  | d :: rest =>
    if combiningClass d ≠ 0 ∧ combiningClass d < combiningClass c then d :: insertMark c rest
    else c :: d :: rest

/-- The characters of `s` with the marks in the order of their classes. Marks of the same class stay
in their order, and none passes a character of class zero. -/
def orderMarks (s : List Char) : List Char :=
  s.foldr (fun c ordered => if combiningClass c = 0 then c :: ordered else insertMark c ordered) []

/-- The mark `c` is put in without losing or changing any other. -/
theorem insertMark_perm (c : Char) (s : List Char) : (insertMark c s).Perm (c :: s) := by
  induction s with
  | nil => exact .refl _
  | cons d rest ih =>
    unfold insertMark
    split
    · exact (ih.cons d).trans (.swap c d rest)
    · exact .refl _

/-- Ordering the marks of `s` only moves them. -/
theorem orderMarks_perm (s : List Char) : (orderMarks s).Perm s := by
  induction s with
  | nil => exact .refl _
  | cons c rest ih =>
    have hstep : (orderMarks (c :: rest)).Perm (c :: orderMarks rest) := by
      unfold orderMarks
      rw [List.foldr_cons]
      split
      · exact .refl _
      · exact insertMark_perm c _
    exact hstep.trans (ih.cons c)

/-- A text that is being composed: the last `base`, the marks behind it, and what came before. -/
structure Composing where
  /-- What is composed already, reversed. -/
  done : List Char
  /-- The character that the next ones may be composed with. -/
  base : Char
  /-- The marks behind it that have not been composed, reversed. -/
  marks : List Char

namespace Composing

/-- All characters that `s` has taken so far, reversed. -/
def all (s : Composing) : List Char := s.marks ++ s.base :: s.done

/-- Adds the character `c`. It is composed with the base if no mark of its class or a higher one is
between. -/
def add (s : Composing) (c : Char) : Composing :=
  let isClose := s.marks.head?.all fun m => combiningClass m < combiningClass c
  match (if isClose then join? s.base c else none) with
  | some joined => { s with base := joined }
  | none => if combiningClass c = 0 then ⟨s.all, c, []⟩ else { s with marks := c :: s.marks }

end Composing

/-- The text `s` in which everything that can be composed is. -/
def compose (s : List Char) : List Char :=
  let (marks, rest) := s.span fun c => combiningClass c ≠ 0
  match rest with
  | [] => marks
  | base :: rest => (rest.foldl Composing.add ⟨marks.reverse, base, []⟩).all.reverse

/-- The composed form of the text `s`, which is one for all ways to write it. -/
def normal (s : List Char) : List Char := compose (orderMarks (s.flatMap (splitWholly splitLimit)))

end StakeLedger.Unicode
