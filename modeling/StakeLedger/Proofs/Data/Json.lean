import Mathlib.Data.List.TakeDrop
import StakeLedger.Data.Json.Reader
import StakeLedger.Proofs.Text.Numeral

/-!
# JSON Is Read Back

A value is plain if its numbers are integers of 64 bits, no record has two fields of one name, and
lists and records are nested to a bounded depth (`Value.IsPlain`). What is written for a plain value
is taken off the front of any text that does not go on like a number (`Json.value_write`).

The main statement is `Json.read?_text`: a plain value is read back from its text.
-/

namespace StakeLedger

/-- A value that JSON can tell: its numbers are integers of 64 bits, no record has two fields of one
name, and lists and records are nested at most `depth` deep. -/
def Value.IsPlain : (depth : Nat) → Value → Prop
  | _, null | _, bool _ | _, text _ => True
  | _, integer n => -(UInt64.size / 2 : Nat) ≤ n ∧ n < UInt64.size
  | _, real _ | 0, list _ | 0, record _ => False
  | depth + 1, list items => ∀ v ∈ items, v.IsPlain depth
  | depth + 1, record fields => (fields.map (·.1)).Nodup ∧ ∀ f ∈ fields, f.2.IsPlain depth

namespace Value

/-- A value that is plain at `depth` is plain wherever deeper nesting is allowed. -/
theorem IsPlain.mono {depth depth' : Nat} {v : Value} (h : v.IsPlain depth) (hle : depth ≤ depth') :
    v.IsPlain depth' := by
  induction depth generalizing depth' v with
  | zero =>
    cases v with
    | list _ | record _ | real _ => simp [IsPlain] at h
    | integer n => simpa only [IsPlain] using h
    | _ => simp [IsPlain]
  | succ depth ih =>
    obtain ⟨depth', rfl⟩ := Nat.exists_eq_add_one.2 (Nat.lt_of_lt_of_le (Nat.succ_pos depth) hle)
    have hle := Nat.le_of_succ_le_succ hle
    cases v with
    | list items => exact fun v hv => ih (h v hv) hle
    | record fields => exact ⟨h.1, fun f hf => ih (h.2 f hf) hle⟩
    | real _ => simp [IsPlain] at h
    | integer n => simpa only [IsPlain] using h
    | _ => simp [IsPlain]

/-- Where the names of the `fields` differ, `keepLast` keeps them all. -/
theorem keepLast_of_nodup {fields : List (String × Value)} (h : (fields.map (·.1)).Nodup) :
    keepLast fields = fields := by
  induction fields with
  | nil => rfl
  | cons f rest ih =>
    obtain ⟨hf, hrest⟩ := List.nodup_cons.1 h
    have hnone : rest.any (·.1 == f.1) = false := by
      refine List.any_eq_false.2 fun g hg heq => hf ?_
      have hname : g.1 = f.1 := eq_of_beq heq
      exact List.mem_map.2 ⟨g, hg, hname⟩
    simp [keepLast, hnone, ih hrest]

end Value

namespace Json

variable {α : Type} {rest : List Char} {v : Value} {depth : Nat}

/-! ## Numbers -/

/-- The text `rest` does not go on like a number: it starts with no digit, point or letter of an
exponent. -/
def EndsNumber (rest : List Char) : Prop :=
  ∀ c ∈ rest.head?, c.isDigit = false ∧ c ≠ '.' ∧ c ≠ 'e' ∧ c ≠ 'E'

/-- The digits `ds` are taken off the front, all of them and nothing of what follows, if `rest` does
not go on like a number. -/
theorem digits_append {ds : List Char} (hne : ds ≠ []) (hds : ∀ c ∈ ds, c.isDigit = true)
    (hrest : EndsNumber rest) : digits (ds ++ rest) = some (ds, rest) := by
  have hspan : (ds ++ rest).span Char.isDigit = (ds, rest) := by
    rw [List.span_eq_takeWhile_dropWhile, List.takeWhile_append_of_pos hds,
      List.dropWhile_append_of_pos hds]
    cases rest with
    | nil => simp
    | cons c rest => simp [(hrest c rfl).1]
  rw [digits, hspan]
  cases ds with
  | nil => exact absurd rfl hne
  | cons c ds => rfl

/-- The whole part of a number is taken as the digits `Nat.toDigits 10 n`; none of these has a zero
in front unless it is `0`. -/
theorem whole_toDigits (n : Nat) (hrest : EndsNumber rest) :
    whole (Nat.toDigits 10 n ++ rest) = some (Nat.toDigits 10 n, rest) := by
  have hdigits := digits_append (n.toDigits_ne_nil (b := 10))
    (fun _ => Decimal.isDigit_of_mem_toDigits) hrest
  have hzero := @Decimal.toDigits_eq_zero n
  have hne := n.toDigits_ne_nil (b := 10)
  generalize Nat.toDigits 10 n = ds at *
  rw [whole.eq_def]
  split
  next c cs heq =>
    cases ds with
    | nil => exact absurd rfl hne
    | cons d ds =>
      -- a zero in front stands alone
      obtain ⟨rfl, hcs⟩ := List.cons.inj heq
      obtain rfl := hzero rfl
      obtain rfl : rest = c :: cs := hcs
      simp [(hrest c rfl).1]
  next => exact hdigits

/-- There is no fraction where the text does not go on like a number. -/
theorem fraction_of_endsNumber (hrest : EndsNumber rest) : fraction rest = some ([], rest) := by
  rw [fraction.eq_def]
  split
  next => exact absurd rfl (hrest _ rfl).2.1
  next => rfl

/-- There is no exponent where the text does not go on like a number. -/
theorem exponent_of_endsNumber (hrest : EndsNumber rest) : exponent rest = some ([], rest) := by
  cases rest with
  | nil => rfl
  | cons c rest =>
    obtain ⟨-, -, he, hE⟩ := hrest c rfl
    simp [exponent, he, hE]

/-- A numeral is taken as the number it stands for, or as its negative, if this fits into 64
bits. -/
theorem unsigned_toDigits (negative : Bool) {n : Nat} (hrest : EndsNumber rest)
    (hfits : if negative = true then 0 < n ∧ n ≤ UInt64.size / 2 else n < UInt64.size) :
    unsigned negative (Nat.toDigits 10 n ++ rest) =
        some (.integer (if negative then -(n : Int) else n), rest) := by
  simpa [unsigned, whole_toDigits n hrest, fraction_of_endsNumber hrest,
    exponent_of_endsNumber hrest, Decimal.ofDigits_toDigits] using hfits

/-! ## Beginnings -/

/-- A character that values and names begin with: no blank, and neither `]` nor `}`, which end a
list and a record. -/
def IsBeginning (c : Char) : Prop := isBlank c = false ∧ c ≠ ']' ∧ c ≠ '}'

/-- A digit is a character that a value can begin with. -/
theorem isBeginning_of_isDigit {c : Char} (h : c.isDigit = true) : IsBeginning c := by
  refine ⟨?_, ?_, ?_⟩
  · refine Bool.eq_false_iff.2 fun hblank => ?_
    simp only [isBlank, Bool.or_eq_true, beq_iff_eq] at hblank
    rcases hblank with ((rfl | rfl) | rfl) | rfl <;> exact absurd h (by decide)
  · rintro rfl
    exact absurd h (by decide)
  · rintro rfl
    exact absurd h (by decide)

theorem skipBlanks_of_isBeginning {c : Char} {cs : List Char} (h : IsBeginning c) :
    skipBlanks (c :: cs) = c :: cs := by
  simp [skipBlanks, h.1]

/-- A natural number `n` is written by its digits. -/
theorem write_integer_ofNat (n : Nat) : write (.integer (.ofNat n)) = Nat.toDigits 10 n := by
  simp [write, Int.repr, Nat.repr]

theorem write_integer_negSucc (n : Nat) :
    write (.integer (.negSucc n)) = '-' :: Nat.toDigits 10 (n + 1) := by
  simp [write, Int.repr, Nat.repr, String.toList_append]

/-- The digits of a number are not empty, and the first one is a digit. -/
theorem exists_toDigits_eq_cons (n : Nat) :
    ∃ c cs, Nat.toDigits 10 n = c :: cs ∧ c.isDigit = true := by
  cases h : Nat.toDigits 10 n with
  | nil => exact absurd h Nat.toDigits_ne_nil
  | cons c cs => exact ⟨c, cs, rfl, Decimal.isDigit_of_mem_toDigits (h ▸ List.mem_cons_self)⟩

/-- What is written for a plain value starts with a character that `IsBeginning`. -/
theorem exists_write_eq_cons (h : v.IsPlain depth) : ∃ c cs, write v = c :: cs ∧ IsBeginning c := by
  cases v with
  | null => exact ⟨_, _, rfl, by decide, by decide, by decide⟩
  | bool b => cases b <;> exact ⟨_, _, rfl, by decide, by decide, by decide⟩
  | integer n =>
    cases n with
    | ofNat n =>
      obtain ⟨c, cs, hcs, hc⟩ := exists_toDigits_eq_cons n
      exact ⟨c, cs, by rw [write_integer_ofNat, hcs], isBeginning_of_isDigit hc⟩
    | negSucc n => exact ⟨_, _, write_integer_negSucc n, by decide, by decide, by decide⟩
  | real _ => simp [Value.IsPlain] at h
  | text s => exact ⟨_, _, rfl, by decide, by decide, by decide⟩
  | list items =>
    cases items <;> exact ⟨_, _, by simp only [write]; rfl, by decide, by decide, by decide⟩
  | record fields =>
    cases fields <;> exact ⟨_, _, by simp only [write]; rfl, by decide, by decide, by decide⟩

/-! ## Sequences -/

/-- The characters of the parts `as` of a sequence that follow another one: each behind a comma, and
the `close` character at the end. -/
def writeRest (part : α → List Char) (close : Char) : List α → List Char
  | [] => [close]
  | a :: as => ',' :: (part a ++ writeRest part close as)

/-- The characters of a field: its name in quotation marks, a colon and its value. -/
def writeField (f : String × Value) : List Char := quote f.1.toList ++ ':' :: write f.2

/-- What `writeItems` writes is the sequence of the items up to the closing bracket. -/
theorem writeItems_eq (items : List Value) : writeItems items = writeRest write ']' items := by
  induction items with
  | nil => rfl
  | cons v items ih => simp [writeItems, writeRest, ih]

/-- What `writeFields` writes is the sequence of the fields up to the closing brace. -/
theorem writeFields_eq (fields : List (String × Value)) :
    writeFields fields = writeRest writeField '}' fields := by
  induction fields with
  | nil => rfl
  | cons f fields ih => simp [writeFields, writeRest, writeField, ih]

section

variable {item : Reader α} {part : α → List Char} {close : Char}
    (hclose : close = ']' ∨ close = '}')

include hclose

/-- Whatever part comes first, what follows it in a sequence does not go on like a number: it is a
comma or the end. -/
theorem endsNumber_writeRest (part : α → List Char) (as : List α) (rest : List Char) :
    EndsNumber (writeRest part close as ++ rest) := by
  intro c hc
  cases as with
  | nil =>
    obtain rfl : close = c := by simpa [writeRest] using hc
    rcases hclose with rfl | rfl <;> decide
  | cons a as =>
    obtain rfl : ',' = c := by simpa [writeRest] using hc
    decide

/-- The parts of a sequence are taken one after another, up to its end, if `item` takes each of them
off the front. The induction is on the parts, and `fuel` exceeds their number. -/
theorem sequence_writeRest {a : α} {as : List α}
    (hitem : ∀ b ∈ a :: as, ∀ rest, EndsNumber rest →
      item (skipBlanks (part b ++ rest)) = some (b, rest))
    {fuel : Nat} (hfuel : as.length < fuel) (acc : List α) (rest : List Char) :
    sequence item close fuel acc (part a ++ (writeRest part close as ++ rest)) =
      some (acc.reverse ++ a :: as, rest) := by
  induction as generalizing a acc fuel with
  | nil =>
    obtain ⟨fuel, rfl⟩ := Nat.exists_eq_add_one.2 hfuel
    have ha := hitem a (by simp) _ (endsNumber_writeRest hclose part [] rest)
    have hskip : skipBlanks (close :: rest) = close :: rest := by
      rcases hclose with rfl | rfl <;> simp [skipBlanks, isBlank]
    rw [sequence, ha]
    simp [writeRest, hskip]
  | cons b as ih =>
    obtain ⟨fuel, rfl⟩ := Nat.exists_eq_add_one.2 (Nat.zero_lt_of_lt hfuel)
    have ha := hitem a (by simp) _ (endsNumber_writeRest hclose part (b :: as) rest)
    have hskip (cs : List Char) : skipBlanks (',' :: cs) = ',' :: cs := rfl
    have hne : ',' ≠ close := by rcases hclose with rfl | rfl <;> decide
    have hlength : as.length < fuel := by simpa using hfuel
    -- a comma leads on to the next part
    rw [sequence, ha]
    simp only [writeRest, List.cons_append, List.append_assoc, hskip, if_neg hne, if_true]
    rw [ih (fun c hc => hitem c (List.mem_cons_of_mem a hc)) hlength]
    simp

omit hclose in
/-- A sequence has more characters than parts, so that its length is fuel enough. -/
theorem length_lt_length_writeRest (as : List α) :
    as.length < (writeRest part close as).length := by
  induction as with
  | nil => simp [writeRest]
  | cons a as ih => simp only [writeRest, List.length_cons, List.length_append]; omega

/-- A sequence with a first part is taken to its end, as the parts `a :: as`. -/
theorem enclosed_writeRest {a : α} {as : List α}
    (hitem : ∀ b ∈ a :: as, ∀ rest, EndsNumber rest →
      item (skipBlanks (part b ++ rest)) = some (b, rest))
    (hpart : ∃ c cs, part a = c :: cs ∧ IsBeginning c) (rest : List Char) :
    enclosed item close (part a ++ (writeRest part close as ++ rest)) = some (a :: as, rest) := by
  obtain ⟨c, cs, hcs, hc⟩ := hpart
  have hne : c ≠ close := by
    rcases hclose with rfl | rfl
    · exact hc.2.1
    · exact hc.2.2
  -- every part that follows takes a character, so the fuel lasts
  have hfuel : as.length < (cs ++ (writeRest part close as ++ rest)).length + 1 := by
    have hlt : as.length < (writeRest part close as).length := length_lt_length_writeRest as
    simp only [List.length_append]
    omega
  have htaken := sequence_writeRest hclose hitem hfuel [] rest
  rw [hcs, List.cons_append] at htaken ⊢
  rw [enclosed, skipBlanks_of_isBeginning hc]
  simpa [if_neg hne] using htaken

end

/-! ## Values -/

/-- A quoted text is taken as the value `.text s`, at any `depth`. -/
theorem value_quote (depth : Nat) (s : String) (rest : List Char) :
    value depth (quote s.toList ++ rest) = some (.text s, rest) := by
  have h : scalar (quote s.toList ++ rest) = some (.text s, rest) := by
    simp [quote, scalar, quoted, unquote_quote]
  cases depth with
  | zero => exact h
  | succ depth => simpa [quote, value] using h

/-- What starts with neither `[` nor `{` is taken as a scalar. -/
theorem value_eq_scalar {c : Char} {cs : List Char} (hlist : c ≠ '[') (hrecord : c ≠ '{')
    (depth : Nat) :
    value depth (c :: cs) = scalar (c :: cs) := by
  cases depth with
  | zero => rfl
  | succ depth =>
    rw [value.eq_def]
    dsimp only
    split
    next heq => exact absurd (List.cons.inj heq).1 hlist
    next heq => exact absurd (List.cons.inj heq).1 hrecord
    next => rfl

/-- What starts with a digit is taken as a number without sign. -/
theorem scalar_of_isDigit {c : Char} {cs : List Char} (h : c.isDigit = true) :
    scalar (c :: cs) = unsigned false (c :: cs) := by
  rw [scalar.eq_def]
  split
  case h_6 => rfl
  all_goals
    rename_i heq
    obtain ⟨rfl, -⟩ := List.cons.inj heq
    exact absurd h (by decide)

/-- An integer of 64 bits is taken as such off the front of a text that does not go on like a
number. -/
theorem value_write_integer {n : Int} (h : (Value.integer n).IsPlain depth)
    (hrest : EndsNumber rest) :
    value depth (write (.integer n) ++ rest) = some (.integer n, rest) := by
  obtain ⟨hleast, hmost⟩ : -(UInt64.size / 2 : Nat) ≤ n ∧ n < UInt64.size := by
    simpa [Value.IsPlain] using h
  cases n with
  -- no sign: the first digit decides that a scalar is read
  | ofNat n =>
    have hfits : n < UInt64.size := Int.ofNat_lt.1 hmost
    have hread := unsigned_toDigits false hrest (n := n) (by simpa using hfits)
    obtain ⟨c, cs, hcs, hc⟩ := exists_toDigits_eq_cons n
    rw [hcs, List.cons_append] at hread
    rw [write_integer_ofNat, hcs, List.cons_append]
    rw [value_eq_scalar (by rintro rfl; exact absurd hc (by decide))
      (by rintro rfl; exact absurd hc (by decide)), scalar_of_isDigit hc]
    exact hread
  -- the sign decides it, and one more fits than without a sign
  | negSucc n =>
    have hfits : n + 1 ≤ UInt64.size / 2 := by omega
    have hread := unsigned_toDigits true hrest (n := n + 1) (by simpa using hfits)
    rw [write_integer_negSucc, List.cons_append, value_eq_scalar (by decide) (by decide)]
    exact hread

theorem skipBlanks_write (h : v.IsPlain depth) (rest : List Char) :
    skipBlanks (write v ++ rest) = write v ++ rest := by
  obtain ⟨c, cs, hcs, hc⟩ := exists_write_eq_cons h
  rw [hcs, List.cons_append, skipBlanks_of_isBeginning hc]

/-- A list is taken as such, one level deeper, if each of its `items` is. -/
theorem value_write_list {items : List Value} (hplain : ∀ v ∈ items, v.IsPlain depth)
    (hitems : ∀ v ∈ items, ∀ rest, EndsNumber rest →
      value depth (write v ++ rest) = some (v, rest)) :
    value (depth + 1) (write (.list items) ++ rest) = some (.list items, rest) := by
  cases items with
  | nil => simp [write, value, enclosed, skipBlanks, isBlank]
  | cons v items =>
    -- blanks are skipped in front of an item, which does not begin with one
    have hitem : ∀ b ∈ v :: items, ∀ rest, EndsNumber rest →
        value depth (skipBlanks (write b ++ rest)) = some (b, rest) := by
      intro b hb rest hrest
      rw [skipBlanks_write (hplain b hb)]
      exact hitems b hb rest hrest
    have htaken := enclosed_writeRest (.inl rfl) hitem (exists_write_eq_cons (hplain v (by simp)))
      rest
    simp only [write, writeItems_eq, List.cons_append, List.append_assoc]
    show (enclosed (value depth) ']' (write v ++ (writeRest write ']' items ++ rest))).map _ = _
    rw [htaken]
    rfl

/-- A field is taken with its name and its value, if the value is. -/
theorem member_writeField {f : String × Value} (hplain : f.2.IsPlain depth)
    (hrest : EndsNumber rest)
    (hvalue : ∀ rest, EndsNumber rest → value depth (write f.2 ++ rest) = some (f.2, rest)) :
    member (value depth) (skipBlanks (writeField f ++ rest)) = some (f, rest) := by
  have hname (cs : List Char) : quoted (quote f.1.toList ++ cs) = some (f.1, cs) := by
    simp [quote, quoted, unquote_quote]
  have hskip (cs : List Char) : skipBlanks (quote f.1.toList ++ cs) = quote f.1.toList ++ cs := rfl
  have hcolon (cs : List Char) : skipBlanks (':' :: cs) = ':' :: cs := rfl
  simp only [writeField, List.append_assoc, List.cons_append, hskip]
  simp [member, hname, hcolon, skipBlanks_write hplain, hvalue rest hrest]

/-- A record is taken as such, one level deeper, if the values of its `fields` are and their names
differ. -/
theorem value_write_record {fields : List (String × Value)} (hnodup : (fields.map (·.1)).Nodup)
    (hplain : ∀ f ∈ fields, f.2.IsPlain depth)
    (hvalues : ∀ f ∈ fields, ∀ rest, EndsNumber rest →
      value depth (write f.2 ++ rest) = some (f.2, rest)) :
    value (depth + 1) (write (.record fields) ++ rest) = some (.record fields, rest) := by
  cases fields with
  | nil => simp [write, value, enclosed, skipBlanks, isBlank, Value.keepLast]
  | cons f fields =>
    have hitem : ∀ g ∈ f :: fields, ∀ rest, EndsNumber rest →
        member (value depth) (skipBlanks (writeField g ++ rest)) = some (g, rest) :=
      fun g hg rest hrest => member_writeField (hplain g hg) hrest (hvalues g hg)
    have htaken := enclosed_writeRest (.inr rfl) hitem ⟨_, _, rfl, by decide, by decide, by decide⟩
      rest
    simp only [writeField, List.cons_append, List.append_assoc] at htaken
    simp only [write, writeFields_eq, List.cons_append, List.append_assoc]
    show (enclosed (member (value depth)) '}' (quote f.1.toList ++ ':' ::
      (write f.2 ++ (writeRest writeField '}' fields ++ rest)))).map _ = _
    rw [htaken]
    -- no field is dropped as a repetition, since the names differ
    simp [Value.keepLast_of_nodup hnodup]

/-- A plain value is taken off the front of a text that does not go on like a number. The induction
is on the `depth` that is left. -/
theorem value_write (h : v.IsPlain depth) (hrest : EndsNumber rest) :
    value depth (write v ++ rest) = some (v, rest) := by
  induction depth generalizing v rest with
  | zero =>
    cases v with
    | null => rfl
    | bool b => cases b <;> rfl
    | integer n => exact value_write_integer h hrest
    | text s => exact value_quote 0 s rest
    -- at depth `0` nothing that nests is plain
    | real _ | list _ | record _ => simp [Value.IsPlain] at h
  | succ depth ih =>
    cases v with
    | null => rfl
    | bool b => cases b <;> rfl
    | integer n => exact value_write_integer h hrest
    | text s => exact value_quote (depth + 1) s rest
    | real _ => simp [Value.IsPlain] at h
    | list items => exact value_write_list h fun v hv _ hrest => ih (h v hv) hrest
    | record fields => exact value_write_record h.1 h.2 fun f hf _ hrest => ih (h.2 f hf) hrest

/-- A plain value is read back from its text; `127` is the depth to which texts are read. -/
theorem read?_text (h : v.IsPlain 127) : read? (text v) = some v := by
  have hread : value 127 (write v ++ []) = some (v, []) := value_write h (by simp [EndsNumber])
  have hskip := skipBlanks_write h []
  have hend : skipBlanks [] = [] := rfl
  rw [List.append_nil] at hread hskip
  simp [read?, text, hskip, hread, hend]

end Json

end StakeLedger
