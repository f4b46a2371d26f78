import Mathlib.Data.List.TakeWhile
import StakeLedger.Proofs.Database.Columns

/-!
# Searching Key Lists

A search for a key reads the stored list by other rules than a query for its row does. On the texts
that are stored both find the same keys (`KeyList.searched?_encodeKeys`), because hexadecimal digits
stand for themselves in either format.
-/

namespace StakeLedger

/-- The character `c` stands for itself between quotation marks, in either format. -/
structure IsPlain (c : Char) : Prop where
  /-- The character does not end a quoted text. -/
  mark : c ≠ '"'
  /-- The character does not start an escape. -/
  backslash : c ≠ '\\'
  /-- The character is no control character. -/
  control : 32 ≤ c.toNat

theorem Hex.isPlain_digit {n : Nat} (h : n < 16) : IsPlain (digit n) := by
  have all : ∀ i : Fin 16, digit i.val ≠ '"' ∧ digit i.val ≠ '\\' ∧ 32 ≤ (digit i.val).toNat := by
    decide
  obtain ⟨hmark, hbackslash, hcontrol⟩ := all ⟨n, h⟩
  exact ⟨hmark, hbackslash, hcontrol⟩

/-- All digits of a number are plain. -/
theorem Hex.isPlain_ofNat (width n : Nat) : ∀ c ∈ ofNat width n, IsPlain c := by
  induction width with
  | zero => nofun
  | succ width ih =>
    rw [ofNat]
    exact List.forall_mem_cons.2 ⟨isPlain_digit (Nat.mod_lt _ (by decide)), ih⟩

theorem XOnlyKey.isPlain_text (k : XOnlyKey) : ∀ c ∈ k.text.toList, IsPlain c := by
  rw [text, String.toList_ofList]
  exact Hex.isPlain_ofNat _ _

/-- Plain characters are written between quotation marks as they are. -/
theorem Json.quote_of_isPlain {text : List Char} (h : ∀ c ∈ text, IsPlain c) :
    quote text = '"' :: (text ++ ['"']) := by
  have hescape : ∀ c ∈ text, escape c = [c] := by
    intro c hc
    obtain ⟨hmark, hbackslash, hcontrol⟩ := h c hc
    rw [escape, if_neg hmark, if_neg hbackslash, if_neg (Nat.not_lt.2 hcontrol)]
  have hflat : text.flatMap escape = text := by
    clear h
    induction text with
    | nil => rfl
    | cons c text ih =>
      obtain ⟨hc, htext⟩ := List.forall_mem_cons.1 hescape
      rw [List.flatMap_cons, hc, ih htext]
      rfl
  rw [quote, hflat]

namespace Json5

/-- Plain characters are read as they are, up to the quotation mark that ends the text. -/
theorem unquote_of_isPlain {text : List Char} (h : ∀ c ∈ text, IsPlain c) (acc rest : List Char) :
    unquote '"' acc (text ++ '"' :: rest) = some (acc.reverse ++ text, rest) := by
  induction text generalizing acc with
  | nil => simp [unquote]
  | cons c text ih =>
    obtain ⟨⟨hmark, hbackslash, -⟩, htext⟩ := List.forall_mem_cons.1 h
    simp [unquote, hmark, hbackslash, ih htext]

/-- A quoted plain text is taken as the value `.text s`, and `rest` is left. -/
theorem value_quote_of_isPlain (depth : Nat) {s : String} (h : ∀ c ∈ s.toList, IsPlain c)
    (rest : List Char) : value depth (Json.quote s.toList ++ rest) = some (.text s, rest) := by
  have hscalar : scalar ('"' :: (s.toList ++ '"' :: rest)) = some (.text s, rest) := by
    simp [scalar, quoted, unquote_of_isPlain h]
  rw [Json.quote_of_isPlain h, List.cons_append, List.append_assoc]
  cases depth with
  | zero => exact hscalar
  | succ depth => simpa [value] using hscalar

/-- A quoted plain text is taken as an item, and the character `d` behind it decides whether the
list ends there or goes on. -/
theorem items_quote (depth : Nat) {s : String} (h : ∀ c ∈ s.toList, IsPlain c) (acc : List Value)
    (fuel : Nat) {d : Char} {rest : List Char} (hskip : skipBlanks (d :: rest) = d :: rest) :
    items (value depth) ']' (fuel + 1) acc (Json.quote s.toList ++ d :: rest) =
      if d = ']' then some ((.text s :: acc).reverse, rest)
      else if d = ',' then items (value depth) ']' fuel (.text s :: acc) rest
      else none := by
  have hvalue := value_quote_of_isPlain depth h (d :: rest)
  obtain ⟨cs, hcs⟩ : ∃ cs, Json.quote s.toList ++ d :: rest = '"' :: cs := ⟨_, rfl⟩
  -- a quotation mark is no blank
  have hmark : skipBlanks ('"' :: cs) = '"' :: cs := rfl
  rw [hcs] at hvalue ⊢
  rw [items, hmark]
  simp only [hvalue, hskip]
  rfl

/-- Quoted plain texts are taken up to the end of their list, if there is `fuel` for each of
them. -/
theorem items_writeItems (depth : Nat) {s : String} {texts : List String}
    (h : ∀ t ∈ s :: texts, ∀ c ∈ t.toList, IsPlain c) (acc : List Value) {fuel : Nat}
    (hfuel : texts.length < fuel) :
    items (value depth) ']' fuel acc (Json.quote s.toList ++ Json.writeItems (texts.map .text)) =
      some (acc.reverse ++ .text s :: texts.map .text, []) := by
  obtain ⟨fuel, rfl⟩ := Nat.exists_eq_add_one.2 (Nat.zero_lt_of_lt hfuel)
  obtain ⟨hs, htexts⟩ := List.forall_mem_cons.1 h
  -- the induction is on the texts behind `s`; each of them takes one unit of the fuel
  induction texts generalizing s acc fuel with
  | nil =>
    rw [List.map_nil, Json.writeItems, items_quote depth hs acc fuel rfl, if_pos rfl]
    simp
  | cons t texts ih =>
    have hlength : texts.length < fuel := Nat.lt_of_succ_lt_succ hfuel
    obtain ⟨fuel, rfl⟩ := Nat.exists_eq_add_one.2 (Nat.zero_lt_of_lt hlength)
    have ht := List.forall_mem_cons.1 htexts
    rw [List.map_cons, Json.writeItems, items_quote depth hs acc (fuel + 1) rfl, if_neg (by decide),
      if_pos rfl, Json.write, ih htexts (.text s :: acc) fuel hlength ht.1 ht.2]
    simp

/-- A list of plain texts is written without control characters. -/
theorem control_of_mem_writeItems {texts : List String}
    (h : ∀ t ∈ texts, ∀ c ∈ t.toList, IsPlain c) :
    ∀ c ∈ Json.writeItems (texts.map .text), 32 ≤ c.toNat := by
  induction texts with
  | nil =>
    rw [List.map_nil, Json.writeItems]
    exact List.forall_mem_singleton.2 (by decide)
  | cons t texts ih =>
    obtain ⟨ht, htexts⟩ := List.forall_mem_cons.1 h
    rw [List.map_cons, Json.writeItems, Json.write, Json.quote_of_isPlain ht]
    intro c hc
    simp only [List.mem_cons, List.mem_append, List.cons_append, List.append_assoc, List.nil_append]
      at hc
    rcases hc with rfl | rfl | hc | rfl | hc
    · decide
    · decide
    · exact (ht c hc).control
    · decide
    · exact ih htexts c hc

/-- A list of plain texts is read as it is written, by the rules of the other format. -/
theorem read?_text_of_isPlain {texts : List String} (h : ∀ t ∈ texts, ∀ c ∈ t.toList, IsPlain c) :
    read? (Json.text (.list (texts.map .text))) = some (.list (texts.map .text)) := by
  cases texts with
  | nil => rfl
  | cons s texts =>
    -- nothing is cut off, because a null character is a control character
    have hwritten := control_of_mem_writeItems h
    rw [List.map_cons, Json.writeItems, List.forall_mem_cons] at hwritten
    have hwhole : (Json.write (.list ((s :: texts).map .text))).takeWhile (· ≠ '\x00') =
        Json.write (.list ((s :: texts).map .text)) := by
      refine List.takeWhile_eq_self_iff.2 fun c hc => decide_eq_true fun hnull => ?_
      rw [List.map_cons, Json.write] at hc
      rcases List.mem_cons.1 hc with hopen | hc
      · rw [hopen] at hnull
        exact absurd hnull (by decide)
      · have hcontrol := hwritten.2 c hc
        rw [hnull] at hcontrol
        exact absurd hcontrol (by decide)
    have hskip (cs : List Char) : skipBlanks ('[' :: cs) = '[' :: cs := rfl
    have hvalue (cs : List Char) : value 1000 ('[' :: cs) =
        (items (value 999) ']' (cs.length + 1) [] cs).map fun read => (.list read.1, read.2) := rfl
    -- every item takes up at least one character of the text that is left
    have hfuel : texts.length <
        (Json.write (.text s) ++ Json.writeItems (texts.map .text)).length + 1 := by
      have hlength : (texts.map Value.text).length <
          (Json.writeItems (texts.map .text)).length := by
        rw [Json.writeItems_eq]
        exact Json.length_lt_length_writeRest _
      rw [List.length_map] at hlength
      rw [List.length_append]
      omega
    rw [read?, Json.text, String.toList_ofList, hwhole, List.map_cons, Json.write, hskip, hvalue]
    rw [Json.write] at hfuel ⊢
    rw [items_writeItems 999 h [] hfuel]
    rfl

end Json5

namespace KeyList

/-- A search in a stored set looks at the texts of its keys, `Column.keyTexts keys`. -/
theorem searched?_encodeKeys (keys : SortedSet XOnlyKey) :
    searched? (Column.encodeKeys keys) = some (Column.keyTexts keys) := by
  have hplain : ∀ t ∈ Column.keyTexts keys, ∀ c ∈ t.toList, IsPlain c := by
    intro t ht
    obtain ⟨k, -, rfl⟩ := List.mem_map.1 ht
    exact k.isPlain_text
  have htexts : ((Column.keyTexts keys).map Value.text).filterMap Value.text? =
      Column.keyTexts keys := by
    rw [List.filterMap_map]
    exact List.filterMap_some
  rw [searched?, Column.encodeKeys_eq, Json5.read?_text_of_isPlain hplain]
  exact congrArg some htexts

/-- A search finds the keys of the set that was stored and no others, because different keys have
different texts. -/
theorem text_mem_keyTexts {keys : SortedSet XOnlyKey} {key : XOnlyKey} :
    key.text ∈ Column.keyTexts keys ↔ key ∈ keys := by
  constructor
  · intro h
    obtain ⟨k, hk, htext⟩ := List.mem_map.1 h
    rwa [XOnlyKey.text_inj htext] at hk
  · exact List.mem_map_of_mem

end KeyList

end StakeLedger
