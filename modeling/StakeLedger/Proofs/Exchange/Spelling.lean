import Mathlib.Data.List.Nodup
import Mathlib.Data.List.TakeDrop
import StakeLedger.Exchange.Delegation
import StakeLedger.Exchange.Settings
import StakeLedger.Proofs.Database.Loading
import StakeLedger.Proofs.Exchange.Form
import StakeLedger.Proofs.Text.LetterCase

/-!
# Other Spellings

Reading accepts more than writing produces. Hexadecimal digits may be in either case
(`Form.IgnoresCase`), the keys of a set may be listed in any order and more than once
(`Form.read?_keySet`), the signatures of a delegation may be listed in any order
(`Form.read?_signatures`), an optional field may be left out or say that there is nothing
(`Layout.read?_absent`), and nanoseconds may make up seconds (`Duration.ofParts?_eq_some_iff`).
-/

namespace StakeLedger

variable {α β γ : Type}

/-- What is known of each item and what `f` makes of it is known of the lists: if `p b = q a`
wherever `f a = some b`, then `bs.map p = l.map q`. -/
theorem map_eq_of_mapM {f : α → Option β} {p : β → γ} {q : α → γ} {l : List α} {bs : List β}
    (h : l.mapM f = some bs) (hpq : ∀ a b, f a = some b → p b = q a) : bs.map p = l.map q := by
  induction l generalizing bs with
  | nil =>
    cases h
    rfl
  | cons a l ih =>
    rw [List.mapM_cons] at h
    obtain ⟨b, hb, h⟩ := Option.bind_eq_some_iff.1 h
    obtain ⟨bs, hbs, h⟩ := Option.bind_eq_some_iff.1 h
    cases h
    rw [List.map_cons, List.map_cons, hpq a b hb, ih hbs]

/-! ## Letters of Either Case -/

namespace Form

/-- Texts that differ in the case of letters only are read alike: `s` and `s.toLower` have the same
value, or neither has one. -/
def IgnoresCase (f : Form α) : Prop := ∀ s : String, f.read? (.text s.toLower) = f.read? (.text s)

theorem ofText?_toLower (s : String) : XOnlyKey.ofText? s.toLower = XOnlyKey.ofText? s := by
  rw [XOnlyKey.ofText?, XOnlyKey.ofText?, toList_toLower, Hex.read?_map_toLower]

theorem ignoresCase_txid : txid.IgnoresCase := by
  intro s
  show Txid.ofText? s.toLower = Txid.ofText? s
  rw [Txid.ofText?, Txid.ofText?, toList_toLower, Hex.read?_map_toLower]

theorem ignoresCase_key : key.IgnoresCase := ofText?_toLower

theorem ignoresCase_signature : signature.IgnoresCase := by
  intro s
  show Signature.ofText? s.toLower = Signature.ofText? s
  rw [Signature.ofText?, Signature.ofText?, toList_toLower, Hex.read?_map_toLower]

theorem ignoresCase_bytes : bytes.IgnoresCase := by
  intro s
  show Hex.bytes? s.toLower.toList = Hex.bytes? s.toList
  rw [toList_toLower, Hex.bytes?_map_toLower]

theorem toLower_eq_colon_iff (c : Char) : c.toLower = ':' ↔ c = ':' := by
  refine char_cases (P := fun c => c.toLower = ':' ↔ c = ':') (by decide) (fun c h => ?_) c
  rw [toLower_of_le h]

/-- The digits in a reference `txid:index` to an output may be in either case. The colon, at which
the text is split, is no letter. -/
theorem ignoresCase_outPoint : outPoint.IgnoresCase := by
  intro s
  -- the text is split at the same place in both spellings
  have hcolon : ((fun c => decide (c ≠ ':')) ∘ Char.toLower) = fun c => decide (c ≠ ':') := by
    funext c
    simp only [Function.comp_apply, ne_eq, toLower_eq_colon_iff]
  have hid : ∀ front : List Char, Txid.ofText? (String.ofList (front.map Char.toLower)) =
      Txid.ofText? (String.ofList front) := by
    intro front
    rw [Txid.ofText?, Txid.ofText?, String.toList_ofList, String.toList_ofList,
      Hex.read?_map_toLower]
  show readOutPoint? s.toLower = readOutPoint? s
  rw [readOutPoint?, readOutPoint?, toList_toLower, List.span_eq_takeWhile_dropWhile,
    List.span_eq_takeWhile_dropWhile, List.takeWhile_map, List.dropWhile_map, hcolon]
  generalize s.toList.takeWhile _ = front
  cases hback : s.toList.dropWhile fun c => decide (c ≠ ':') with
  | nil => rfl
  | cons c index =>
    obtain rfl : c = ':' := by
      have hhead := List.head?_dropWhile_not (fun c => decide (c ≠ ':')) s.toList
      rw [hback] at hhead
      simpa using hhead
    show (Txid.ofText? (String.ofList (front.map Char.toLower))).bind _ =
      (Txid.ofText? (String.ofList front)).bind _
    rw [hid]
    simp only [Decimal.readCanonical?_map_toLower]

/-! ## Keys and Signatures in Any Order -/

/-- A set is read from its keys, listed in any order and any number of times: lists with the same
members, `vs` and `ws`, are read as the same set. -/
theorem read?_keySet {vs ws : List Value} (h : ∀ v, v ∈ vs ↔ v ∈ ws) :
    keySet.read? (.list vs) = keySet.read? (.list ws) := by
  -- one direction is enough, as the other one exchanges the lists
  have half : ∀ {vs ws : List Value}, (∀ v, v ∈ vs ↔ v ∈ ws) → ∀ s,
      keySet.read? (.list vs) = some s → keySet.read? (.list ws) = some s := by
    intro vs ws h s hread
    obtain ⟨keys, hkeys, rfl⟩ := Option.map_eq_some_iff.1 hread
    have hvs : vs.map key.read? = keys.map some := mapM_eq_some_iff.1 hkeys
    have hmem : ∀ k, k ∈ ws.map key.read? ↔ k ∈ keys.map some := by
      intro k
      rw [← hvs, List.mem_map, List.mem_map]
      simp only [h]
    obtain ⟨keys', hws⟩ := exists_map_eq (f := some) fun k hk => by
      obtain ⟨a, -, ha⟩ := List.mem_map.1 ((hmem k).1 hk)
      exact ⟨a, ha⟩
    have hkeys' : key.list.read? (.list ws) = some keys' := mapM_eq_some_iff.2 hws.symm
    show (key.list.read? (.list ws)).map SortedSet.ofList = _
    rw [hkeys', Option.map_some]
    -- sets with the same members are equal, in whichever order they were filled
    refine congrArg some (SortedSet.eq_of_mem_iff fun k => ?_)
    have hk := hmem (some k)
    rw [← hws] at hk
    simpa [SortedSet.mem_ofList] using hk
  exact Option.ext fun s => ⟨half h s, half (fun v => (h v).symm) s⟩

/-- The field `f` with its name in lower case. -/
def lowerName (f : String × Value) : String × Value := (f.1.toLower, f.2)

theorem readSigned?_lowerName (f : String × Value) : readSigned? (lowerName f) = readSigned? f := by
  rw [readSigned?, readSigned?, lowerName, ofText?_toLower]

/-- The key that is read from the name of `f` has this name in lower case for its text. -/
theorem toLower_of_readSigned? {f : String × Value} {e : XOnlyKey × Signature}
    (h : readSigned? f = some e) : e.1.text = f.1.toLower := by
  obtain ⟨k, hk, h⟩ := Option.bind_eq_some_iff.1 h
  obtain ⟨g, -, h⟩ := Option.bind_eq_some_iff.1 h
  cases h
  exact XOnlyKey.text_of_ofText? hk

/-- The signatures are read from their fields in any order, the names of which may be in either
case. No two names may be the same key, for then the last one of them would count. -/
theorem read?_signatures {fields fields' : List (String × Value)}
    (hnodup : (fields.map (·.1.toLower)).Nodup)
    (h : (fields.map lowerName).Perm (fields'.map lowerName)) :
    signatures.read? (.record fields) = signatures.read? (.record fields') := by
  have half : ∀ {fields fields' : List (String × Value)}, (fields.map (·.1.toLower)).Nodup →
      (fields.map lowerName).Perm (fields'.map lowerName) → ∀ m,
      signatures.read? (.record fields) = some m → signatures.read? (.record fields') = some m := by
    intro fields fields' hnodup h m hread
    have hsorted := List.mergeSort_perm fields fun a b => decide (a.1 ≤ b.1)
    have hsorted' := List.mergeSort_perm fields' fun a b => decide (a.1 ≤ b.1)
    obtain ⟨entries, hentries, rfl⟩ := Option.map_eq_some_iff.1 hread
    -- read with their names in lower case, the fields are the same up to the order
    have hlower : ∀ fields, (List.map lowerName fields).map readSigned? =
        fields.map readSigned? := by
      intro fields
      simp only [List.map_map, Function.comp_def, readSigned?_lowerName]
    have hperm : ((fields'.mergeSort fun a b => decide (a.1 ≤ b.1)).map readSigned?).Perm
        (entries.map some) := by
      rw [← mapM_eq_some_iff.1 hentries, ← hlower, ← hlower (fields.mergeSort _)]
      exact (((hsorted'.map _).trans h.symm).trans (hsorted.map _).symm).map _
    obtain ⟨entries', hsame, hmap⟩ := exists_map_eq_of_perm hperm
    have hkeys : (entries.map (·.1)).Nodup := by
      have hnames := (hsorted.map (·.1.toLower)).nodup_iff.2 hnodup
      rw [← map_eq_of_mapM (p := (·.1.text)) hentries fun _ _ => toLower_of_readSigned?] at hnames
      have htexts : ((entries.map (·.1)).map XOnlyKey.text).Nodup := by rwa [List.map_map]
      exact List.Nodup.of_map _ htexts
    show ((fields'.mergeSort _).mapM readSigned?).map SortedMap.ofList = _
    rw [mapM_eq_some_iff.2 hmap.symm, Option.map_some]
    refine congrArg some (SortedMap.eq_of_find? fun k => Option.ext fun g => ?_)
    rw [SortedMap.find?_ofList ((hsame.map _).nodup_iff.2 hkeys), SortedMap.find?_ofList hkeys,
      hsame.mem_iff]
  have hnodup' : (fields'.map (·.1.toLower)).Nodup := by
    have hnames := h.map (·.1)
    rw [List.map_map, List.map_map] at hnames
    exact hnames.nodup_iff.1 hnodup
  exact Option.ext fun m => ⟨half hnodup h m, half hnodup' h.symm m⟩

end Form

/-! ## Fields That Are Left Out -/

theorem Form.orNone_none (f : Form α) : f.orNone none = f.orNone (some .null) := rfl

/-- A field that is `null` may be left out of a record if `l.ofFields` makes the same value where
the field is absent. -/
theorem Layout.read?_absent (l : Layout α) {name : String} {fields : List (String × Value)}
    (hclosed : l.closed = false) (habsent : name ∉ fields.map (·.1))
    (hread : ∀ field : String → Option Value, field name = none →
      l.ofFields (l.names.map fun n => if n = name then some .null else field n) =
        l.ofFields (l.names.map field)) :
    l.form.read? (.record ((name, .null) :: fields)) = l.form.read? (.record fields) := by
  have hfields : ∀ fields, l.fields? (.record fields) =
      some (l.names.map fun n => fields.lookup n) := by
    intro fields
    rw [fields?, hclosed]
    rfl
  have hnone : fields.lookup name = none := by
    refine List.lookup_eq_none_iff.2 fun f hf => bne_iff_ne.2 fun heq => ?_
    exact habsent (List.mem_map.2 ⟨f, hf, heq.symm⟩)
  -- looked up with `null` in front, only `name` finds something else
  have hlookup : ∀ n, ((name, Value.null) :: fields).lookup n =
      if n = name then some .null else fields.lookup n := by
    intro n
    by_cases hn : n = name
    · simp [hn]
    · have hne : (n == name) = false := beq_eq_false_iff_ne.2 hn
      rw [List.lookup_cons, hne, if_neg hn]
  show (l.fields? _).bind l.ofFields = (l.fields? _).bind l.ofFields
  rw [hfields, hfields]
  simp only [hlookup, Option.bind_some]
  exact hread _ hnone

/-! ## Seconds That Nanoseconds Make Up -/

/-- A duration is made of the parts that add up to its length in nanoseconds. -/
theorem Duration.ofParts?_eq_some_iff {seconds : UInt64} {nanos : UInt32} {d : Duration} :
    ofParts? seconds nanos = some d ↔
      d.seconds.toNat * 1000000000 + d.nanos.toNat = seconds.toNat * 1000000000 + nanos.toNat := by
  have hrest : (nanos % 1000000000).toNat = nanos.toNat % 1000000000 :=
    UInt32.toNat_mod nanos 1000000000
  have hd := d.nanos_lt
  have hs := d.seconds.toNat_lt
  rw [ofParts?, Option.ite_none_right_eq_some, Option.some.injEq]
  constructor
  · rintro ⟨hlt, rfl⟩
    show (UInt64.ofNat _).toNat * 1000000000 + (nanos % 1000000000).toNat = _
    rw [UInt64.toNat_ofNat_of_lt' hlt, hrest]
    omega
  · intro hlength
    -- the parts of a length in seconds and nanoseconds are its quotient and remainder
    have htotal : seconds.toNat + nanos.toNat / 1000000000 = d.seconds.toNat := by omega
    have hnanos : nanos % 1000000000 = d.nanos := UInt32.toNat_inj.1 (by omega)
    rw [htotal]
    refine ⟨hs, ?_⟩
    cases d
    simp_all

end StakeLedger
