import Mathlib.Data.List.Perm.Basic
import StakeLedger.Database.Tables
import StakeLedger.Proofs.Database.KeySearch
import StakeLedger.Proofs.Database.Rows

/-!
# Loading Records

A query finds rows in an order of its own, reads them one after another and gives each record the
signatures for its transaction. If the table of signatures has those of some records
(`Database.HasSignatures`), then from the rows of these records the records are loaded, in the order
of the rows (`Database.load_map`).
-/

namespace StakeLedger

variable {α β : Type}

/-- A list that is the image of `as` up to the order is the image of the same elements in some
order. -/
theorem exists_map_eq_of_perm {f : α → β} {l : List β} {as : List α} (h : l.Perm (as.map f)) :
    ∃ as' : List α, as'.Perm as ∧ as'.map f = l := by
  have himage : List.Forall₂ (fun b a => b = f a) (as.map f) as :=
    List.forall₂_map_right_iff.1 (List.forall₂_same.2 fun _ _ => rfl)
  obtain ⟨as', hrelated, hperm⟩ := List.perm_comp_forall₂ h himage
  have heq := List.forall₂_map_right_iff.2 hrelated
  rw [List.forall₂_eq_eq_eq] at heq
  exact ⟨as', hperm, heq.symm⟩

/-- A list all of whose elements are images under `f` is the image of a list. -/
theorem exists_map_eq {f : α → β} {l : List β} (h : ∀ b ∈ l, ∃ a, f a = b) :
    ∃ as : List α, as.map f = l := by
  induction l with
  | nil => exact ⟨[], rfl⟩
  | cons b l ih =>
    obtain ⟨⟨a, rfl⟩, hl⟩ := List.forall_mem_cons.1 h
    obtain ⟨as, rfl⟩ := ih hl
    exact ⟨a :: as, rfl⟩

/-- The result of `l.find? p` is the one element of `l` with the property `p`, or `none` if there is
none. -/
theorem find?_eq_of_unique {p : α → Bool} {l : List α} {o : Option α}
    (hunique : ∀ a ∈ l, p a = true → o = some a) (hmem : ∀ a ∈ o, a ∈ l ∧ p a = true) :
    l.find? p = o := by
  cases hfind : l.find? p with
  | none =>
    cases o with
    | none => rfl
    | some a =>
      obtain ⟨ha, hp⟩ := hmem a rfl
      exact absurd hp (List.find?_eq_none.1 hfind a ha)
  | some a => exact (hunique a (List.mem_of_find?_eq_some hfind) (List.find?_some hfind)).symm

/-- The images that are kept under a condition `p` are those of the elements that satisfy it. -/
theorem filterMap_map_ite {p : α → Prop} [DecidablePred p] (f : α → β) (l : List α) :
    (l.map fun a => if p a then some (f a) else none).filterMap id =
      (l.filter fun a => p a).map f := by
  rw [List.filterMap_map, Function.id_comp]
  induction l with
  | nil => rfl
  | cons a l ih => by_cases ha : p a <;> simp [ha, ih]

/-- The rows of the signatures in the record `d`, each with its transaction. -/
def Delegation.signatureRows (d : Delegation) : List SignatureRow :=
  d.signatures.entries.map fun e => .ofSignature d.txid e.1 e.2

/-- All rows of `d.signatureRows` have the transaction of `d`. -/
theorem Delegation.txid_of_mem_signatureRows {d : Delegation} {row : SignatureRow}
    (h : row ∈ d.signatureRows) : row.txid = d.txid.text := by
  obtain ⟨e, -, rfl⟩ := List.mem_map.1 h
  rfl

/-- Among the rows for several records, those for the transaction of `d` are `d.signatureRows`, if
no other record is of the same transaction. -/
theorem Delegation.filter_signatureRows {d : Delegation} {others : List Delegation}
    (h : ∀ d' ∈ others, d'.txid ≠ d.txid) :
    ((d :: others).flatMap (·.signatureRows)).filter (·.txid = d.txid.text) = d.signatureRows := by
  have hown : d.signatureRows.filter (·.txid = d.txid.text) = d.signatureRows :=
    List.filter_eq_self.2 fun _ hrow => decide_eq_true (txid_of_mem_signatureRows hrow)
  have hothers : (others.flatMap (·.signatureRows)).filter (·.txid = d.txid.text) = [] := by
    refine List.filter_eq_nil_iff.2 fun row hrow htext => ?_
    obtain ⟨d', hd', hrow⟩ := List.mem_flatMap.1 hrow
    have heq := (txid_of_mem_signatureRows hrow).symm.trans (of_decide_eq_true htext)
    exact h d' hd' (Txid.text_inj heq)
  rw [List.flatMap_cons, List.filter_append, hown, hothers, List.append_nil]

namespace Database

/-- Rows all of which can be read are read in turn: `decodeAll` gives `value a` for each
`encode a`. -/
theorem decodeAll_map {γ : Type} {decode : β → Except DriverFailure γ} {encode : α → β}
    {value : α → γ} {as : List α} (h : ∀ a ∈ as, decode (encode a) = .ok (value a)) :
    decodeAll decode (as.map encode) = .ok (as.map value) := by
  have hmap : (as.map encode).mapM decode = .ok (as.map value) := by
    induction as with
    | nil => rfl
    | cons a as ih =>
      obtain ⟨ha, has⟩ := List.forall_mem_cons.1 h
      rw [List.map_cons, List.mapM_cons, ha, ih has]
      rfl
  rw [decodeAll, hmap]
  rfl

/-- The table of signatures holds, for each of `records`, the rows of its signatures, in any order,
and no further row for its transaction. -/
def HasSignatures (db : Database) (records : List Delegation) : Prop :=
  ∀ d ∈ records, (db.signatures.filter (·.txid = d.txid.text)).Perm d.signatureRows

/-- Among the rows that are read for `records` at once are those of each record `d`. -/
theorem HasSignatures.filter_signatureRows {db : Database} {records : List Delegation}
    (h : db.HasSignatures records) {d : Delegation} (hd : d ∈ records) :
    ((db.signatureRows (records.map (·.txid.text))).filter (·.txid = d.txid.text)).Perm
      d.signatureRows := by
  have hlisted : d.txid.text ∈ records.map (·.txid.text) := List.mem_map_of_mem hd
  have hrows : (db.signatureRows (records.map (·.txid.text))).Perm
      (db.signatures.filter fun r => r.txid ∈ records.map (·.txid.text)) := List.mergeSort_perm _ _
  calc ((db.signatureRows (records.map (·.txid.text))).filter (·.txid = d.txid.text))
    _ |>.Perm ((db.signatures.filter fun r => r.txid ∈ records.map (·.txid.text)).filter
        (·.txid = d.txid.text)) := hrows.filter _
    _ = db.signatures.filter (·.txid = d.txid.text) := by
      rw [List.filter_filter]
      refine List.filter_congr fun r _ => ?_
      rw [← Bool.decide_and]
      exact decide_eq_decide.2 (and_iff_left_of_imp fun heq => heq ▸ hlisted)
    _ |>.Perm d.signatureRows := h d hd

/-- Every row that is read for `records` at once holds a signature for one of them. -/
theorem HasSignatures.exists_of_mem {db : Database} {records : List Delegation}
    (h : db.HasSignatures records) {r : SignatureRow}
    (hr : r ∈ db.signatureRows (records.map (·.txid.text))) :
    ∃ d ∈ records, ∃ e : XOnlyKey × Signature, .ofSignature d.txid e.1 e.2 = r := by
  obtain ⟨hmem, hlisted⟩ := List.mem_filter.1 ((List.mergeSort_perm _ _).mem_iff.1 hr)
  obtain ⟨d, hd, htxid⟩ := List.mem_map.1 (of_decide_eq_true hlisted)
  have hown : r ∈ db.signatures.filter (·.txid = d.txid.text) :=
    List.mem_filter.2 ⟨hmem, decide_eq_true htxid.symm⟩
  obtain ⟨e, -, rfl⟩ := List.mem_map.1 ((h d hd).mem_iff.1 hown)
  exact ⟨d, hd, e, rfl⟩

/-- The signatures for `records` are all read, each is for one of the records, and those for a
record are its own. -/
theorem decode_signatureRows {db : Database} {records : List Delegation}
    (h : db.HasSignatures records) :
    ∃ signatures,
      decodeAll SignatureRow.decode (db.signatureRows (records.map (·.txid.text))) =
        .ok signatures ∧
      (∀ e ∈ signatures, ∃ d ∈ records, e.1 = d.txid) ∧
      ∀ d ∈ records, ((signatures.filter (·.1 = d.txid)).map (·.2)).Perm d.signatures.entries := by
  let encode : Txid × XOnlyKey × Signature → SignatureRow := fun s => .ofSignature s.1 s.2.1 s.2.2
  have hdecode : ∀ s, (encode s).decode = .ok s := fun s => SignatureRow.decode_ofSignature _ _ _
  have hinjective : encode.Injective := by
    intro a b hab
    have hread := congrArg SignatureRow.decode hab
    rw [hdecode, hdecode] at hread
    exact Except.ok.inj hread
  have hencoded : ∀ r ∈ db.signatureRows (records.map (·.txid.text)), ∃ s, encode s = r := by
    intro r hr
    obtain ⟨d, -, e, he⟩ := h.exists_of_mem hr
    exact ⟨(d.txid, e), he⟩
  obtain ⟨signatures, hsignatures⟩ := exists_map_eq hencoded
  -- reading the rows undoes the encoding
  have hread : decodeAll SignatureRow.decode (signatures.map encode) = .ok (signatures.map id) :=
    decodeAll_map fun s _ => hdecode s
  rw [hsignatures, List.map_id] at hread
  refine ⟨signatures, hread, fun s hs => ?_, fun d hd => ?_⟩
  · obtain ⟨d, hd, e, he⟩ := h.exists_of_mem (hsignatures ▸ List.mem_map_of_mem hs)
    have hsame : (d.txid, e) = s := hinjective he
    exact ⟨d, hd, (congrArg Prod.fst hsame).symm⟩
  -- the encoding is injective, so it is enough to compare rows
  have hown : ((signatures.filter (·.1 = d.txid)).map encode).Perm
      ((d.signatures.entries.map fun e => (d.txid, e)).map encode) := by
    calc ((signatures.filter (·.1 = d.txid)).map encode)
      _ = (signatures.map encode).filter (·.txid = d.txid.text) := by
        rw [List.filter_map]
        refine congrArg _ (List.filter_congr fun s _ => decide_eq_decide.2 ?_)
        exact ⟨congrArg Txid.text, Txid.text_inj⟩
      _ = (db.signatureRows (records.map (·.txid.text))).filter (·.txid = d.txid.text) := by
        rw [hsignatures]
      _ |>.Perm d.signatureRows := h.filter_signatureRows hd
      _ = _ := by rw [List.map_map]; rfl
  have hkeys := ((List.map_perm_map_iff hinjective).1 hown).map (·.2)
  rwa [List.map_map, Function.comp_def, List.map_id'] at hkeys

/-- Records of different transactions are given back the signatures they had. -/
theorem assemble_unsigned {signatures : List (Txid × XOnlyKey × Signature)}
    {records : List Delegation} (hdistinct : (records.map (·.txid)).Nodup)
    (hown : ∀ d ∈ records, ((signatures.filter (·.1 = d.txid)).map (·.2)).Perm
      d.signatures.entries) :
    assemble signatures (records.map Delegation.unsigned) = records := by
  induction records generalizing signatures with
  | nil => rfl
  | cons d records ih =>
    obtain ⟨hnew, hrest⟩ := List.nodup_cons.1 hdistinct
    obtain ⟨hd, hrecords⟩ := List.forall_mem_cons.1 hown
    -- what is left over is all that the other records need
    have hothers : ∀ d' ∈ records,
        (((signatures.filter fun s => !decide (s.1 = d.txid)).filter (·.1 = d'.txid)).map
          (·.2)).Perm d'.signatures.entries := by
      intro d' hd'
      have hne : d'.txid ≠ d.txid := by
        intro heq
        exact hnew (List.mem_map.2 ⟨d', hd', heq⟩)
      have hsame : (signatures.filter fun s => !decide (s.1 = d.txid)).filter (·.1 = d'.txid) =
          signatures.filter (·.1 = d'.txid) := by
        rw [List.filter_filter]
        refine List.filter_congr fun s _ => ?_
        by_cases hs : s.1 = d'.txid
        · simp [hs, hne]
        · simp [hs]
      rw [hsame]
      exact hrecords d' hd'
    have hhead : { d.unsigned with
        signatures := SortedMap.ofList ((signatures.filter (·.1 = d.txid)).map (·.2)) } = d := by
      rw [SortedMap.ofList_of_perm hd]
      rfl
    rw [List.map_cons, assemble, List.partition_eq_filter_filter]
    exact congrArg₂ List.cons hhead (ih hrest hothers)

/-- Records are completed by their signatures, in the order in which they were read. -/
theorem withSignatures_unsigned {db : Database} {records : List Delegation}
    (hdistinct : (records.map (·.txid)).Nodup) (hsignatures : db.HasSignatures records) :
    db.withSignatures (records.map Delegation.unsigned) = .ok records := by
  obtain ⟨signatures, hread, -, hown⟩ := decode_signatureRows hsignatures
  have htxids : (records.map Delegation.unsigned).map (·.txid.text) =
      records.map (·.txid.text) := by
    rw [List.map_map]
    rfl
  rw [withSignatures, htxids, hread]
  exact congrArg Except.ok (assemble_unsigned hdistinct hown)

/-- Storable records of different transactions are loaded from their rows, in the order of the
rows. -/
theorem load_map {db : Database} {records : List Delegation}
    (hstorable : ∀ d ∈ records, d.IsStorable) (hdistinct : (records.map (·.txid)).Nodup)
    (hsignatures : db.HasSignatures records) :
    db.load (records.map .ofDelegation) = .ok records := by
  have hrecords : decodeAll DelegationRow.decode (records.map .ofDelegation) =
      .ok (records.map Delegation.unsigned) :=
    decodeAll_map fun d hd => DelegationRow.decode_ofDelegation (hstorable d hd)
  rw [load, hrecords]
  exact withSignatures_unsigned hdistinct hsignatures

end Database

end StakeLedger
