import StakeLedger.Params.Registry
import StakeLedger.Proofs.Order.Listing

/-!
# Registering Parameters

Parameters are registered if they are consistent and their version holds nothing else
(`Registry.exists_register_iff`). Whatever becomes of attempts to register, a registry only grows by
them (`Registry.isExtendedBy_attempts`).
-/

namespace StakeLedger

/-! ## Consistent Parameters -/

/-- The parameters `p` name a quorum that their committee can reach, no key twice, and bounds in
order. -/
structure StakingParams.IsConsistent (p : StakingParams) : Prop where
  /-- Someone has to sign: a quorum of `0` is refused. -/
  quorum_pos : 1 ≤ p.quorum.toNat
  /-- The committee is large enough for `p.quorum`. -/
  quorum_le : p.quorum.toNat ≤ p.committee.length
  /-- No key stands in `p.committee` twice. -/
  committee : p.committee.Nodup
  amounts : p.leastAmount.sats ≤ p.mostAmount.sats
  times : p.leastStakingTime ≤ p.mostStakingTime

/-- No element of `l` is found to be repeated exactly if the list has none twice, and none of those
that were `seen` before. -/
theorem firstRepeated?_eq_none_iff {α : Type} [DecidableEq α] {seen l : List α} :
    firstRepeated? seen l = none ↔ l.Nodup ∧ ∀ a ∈ l, a ∉ seen := by
  induction l generalizing seen with
  | nil => simp [firstRepeated?]
  | cons a l ih =>
    rw [firstRepeated?]
    by_cases ha : a ∈ seen
    · simp [ha]
    · -- what follows must avoid the head as well as what was seen before it
      simp only [if_neg ha, ih, List.nodup_cons, List.mem_cons, not_or, forall_eq_or_imp]
      constructor
      · rintro ⟨hnodup, hnew⟩
        exact ⟨⟨fun hmem => (hnew a hmem).1 rfl, hnodup⟩, ha, fun b hb => (hnew b hb).2⟩
      · rintro ⟨⟨hhead, hnodup⟩, -, hnew⟩
        exact ⟨hnodup, fun b hb => ⟨fun heq => hhead (heq ▸ hb), hnew b hb⟩⟩

/-- The check `validate` passes exactly the parameters that are consistent. -/
theorem StakingParams.validate_eq_ok_iff {p : StakingParams} :
    p.validate = .ok () ↔ p.IsConsistent := by
  have hzero : p.quorum = 0 ↔ p.quorum.toNat = 0 := by
    rw [← UInt32.toNat_inj]
    rfl
  have hamounts : p.mostAmount < p.leastAmount ↔ ¬p.leastAmount.sats ≤ p.mostAmount.sats :=
    UInt64.not_le.symm
  have htimes : p.mostStakingTime < p.leastStakingTime ↔ ¬p.leastStakingTime ≤ p.mostStakingTime :=
    UInt32.not_le.symm
  constructor
  · -- the checks come one after another, and none of them failed
    intro h
    simp only [validate] at h
    split at h
    · cases h
    next hquorum =>
      rw [hzero] at hquorum
      split at h
      · cases h
      next hcommittee =>
        split at h
        · cases h
        next hamount =>
          split at h
          · cases h
          next htime =>
            refine ⟨?_, ?_, (firstRepeated?_eq_none_iff.1 hcommittee).1, ?_, ?_⟩
            · omega
            · omega
            · exact Decidable.not_not.1 (hamounts.not.1 hamount)
            · exact Decidable.not_not.1 (htimes.not.1 htime)
  · intro h
    have hquorum : ¬(p.quorum = 0 ∨ p.committee.length < p.quorum.toNat) := by
      have hpos := h.quorum_pos
      have hle := h.quorum_le
      rw [hzero]
      omega
    have hcommittee : firstRepeated? [] p.committee = none :=
      firstRepeated?_eq_none_iff.2 ⟨h.committee, fun _ _ => List.not_mem_nil⟩
    rw [validate, if_neg hquorum, hcommittee]
    simp only [hamounts, htimes, h.amounts, h.times, not_true_eq_false, if_false]

theorem StakingParams.quorum_pos {p : StakingParams} (h : p.validate = .ok ()) :
    0 < p.quorum.toNat :=
  (validate_eq_ok_iff.1 h).quorum_pos

namespace Registry

variable {r r' r'' : Registry} {p : StakingParams} {version : ParamsVersion}

/-! ## Registering -/

/-- Registries that hold the same under every version, and have the same checkpoint, are equal. -/
theorem eq_of_staking? (hcheckpoint : r.checkpoint = r'.checkpoint)
    (h : ∀ version, r.staking? version = r'.staking? version) : r = r' := by
  have hversions : r.versions = r'.versions := SortedMap.eq_of_find? h
  cases r
  cases r'
  cases hcheckpoint
  cases hversions
  rfl

/-- Parameters are listed in `r.all` exactly if they are held under their version. -/
theorem mem_all_iff : p ∈ r.all ↔ r.staking? p.version = some p := by
  rw [all, SortedMap.values, List.mem_map]
  constructor
  · rintro ⟨⟨version, p⟩, hentry, rfl⟩
    rw [(r.sound _ hentry).1]
    exact SortedMap.mem_entries_iff.1 hentry
  · intro h
    exact ⟨(p.version, p), SortedMap.mem_entries_iff.2 h, rfl⟩

theorem version_of_staking? (h : r.staking? version = some p) : p.version = version :=
  (r.sound _ (SortedMap.mem_entries_iff.2 h)).1

/-- Registered parameters have passed `validate`. -/
theorem validate_of_staking? (h : r.staking? version = some p) : p.validate = .ok () :=
  (r.sound _ (SortedMap.mem_entries_iff.2 h)).2

/-- The versions of a registry are listed in ascending order. -/
theorem ascending_versions (r : Registry) : (r.all.map (·.version)).Pairwise (· < ·) := by
  have hkeys : r.all.map (·.version) = r.versions.keys := by
    rw [all, SortedMap.values, List.map_map, SortedMap.keys]
    exact List.map_congr_left fun e he => (r.sound e he).1
  rw [hkeys, SortedMap.keys, List.pairwise_map]
  exact r.versions.ascending.imp fun h => compareOfLessAndEq_eq_lt.1 h

/-- Adding `p` writes nothing to a registry but `p`, under its own version. -/
theorem staking?_add (r : Registry) (h : p.validate = .ok ()) (version : ParamsVersion) :
    (r.add p h).staking? version = if version = p.version then some p else r.staking? version := by
  rw [staking?, add, SortedMap.find?_insert]
  simp only [Std.LawfulEqOrd.compare_eq_iff_eq]
  rfl

/-- What registering comes to: parameters are refused if they are not consistent or if their version
holds others; otherwise they are held already or are added. -/
theorem register_cases (r : Registry) (p : StakingParams) :
    (¬p.IsConsistent ∧ ∃ e, r.register p = .error e) ∨
    (∃ q, r.staking? p.version = some q ∧ q ≠ p ∧
      r.register p = .error (.versionConflict p.version)) ∨
    (p.IsConsistent ∧ r.staking? p.version = some p ∧ r.register p = .ok r) ∨
    ∃ h : p.validate = .ok (), r.staking? p.version = none ∧ r.register p = .ok (r.add p h) := by
  have hvalidate := StakingParams.validate_eq_ok_iff (p := p)
  rw [register]
  split
  next e he =>
    refine .inl ⟨?_, e, rfl⟩
    rw [← hvalidate, he]
    nofun
  -- consistent parameters meet those of the same version, if there are any
  next hvalid =>
    split
    next q hq =>
      split
      next heq =>
        subst heq
        exact .inr (.inr (.inl ⟨hvalidate.1 hvalid, hq, rfl⟩))
      next hne => exact .inr (.inl ⟨q, hq, hne, rfl⟩)
    next hnone => exact .inr (.inr (.inr ⟨hvalid, hnone, rfl⟩))

/-- Parameters are registered exactly if they are consistent and their version holds nothing
else. -/
theorem exists_register_iff : (∃ r', r.register p = .ok r') ↔
    p.IsConsistent ∧ ∀ q, r.staking? p.version = some q → q = p := by
  rcases r.register_cases p with ⟨hnot, e, he⟩ | ⟨q, hq, hne, he⟩ | ⟨hconsistent, hheld,
    hok⟩ | ⟨hvalid, hnone, hok⟩
  · simp [he, hnot]
  · -- the version holds something else
    simp only [he, reduceCtorEq, exists_false, false_iff, not_and]
    intro _ hunique
    exact hne (hunique q hq)
  · refine ⟨fun _ => ⟨hconsistent, fun q hq => ?_⟩, fun _ => ⟨r, hok⟩⟩
    exact Option.some.inj (hq.symm.trans hheld)
  · refine ⟨fun _ => ⟨StakingParams.validate_eq_ok_iff.1 hvalid, fun q hq => ?_⟩, fun _ => ⟨_, hok⟩⟩
    cases hnone.symm.trans hq

/-- What was registered is what its version holds, and every other version holds what it held. -/
theorem staking?_of_register (h : r.register p = .ok r') : r'.checkpoint = r.checkpoint ∧
    ∀ version, r'.staking? version =
      if version = p.version then some p else r.staking? version := by
  rcases r.register_cases p with ⟨-, e, he⟩ | ⟨q, -, -, he⟩ | ⟨-, hheld, hok⟩ | ⟨hvalid, -, hok⟩
  · cases he.symm.trans h
  · cases he.symm.trans h
  · obtain rfl := Except.ok.inj (hok.symm.trans h)
    refine ⟨rfl, fun version => ?_⟩
    split
    next hversion => rw [hversion, hheld]
    next => rfl
  · obtain rfl := Except.ok.inj (hok.symm.trans h)
    exact ⟨rfl, r.staking?_add hvalid⟩

/-! ## Attempts to Register -/

/-- The registry after an attempt to register `p`: what fails leaves it as it is. -/
def attempt (r : Registry) (p : StakingParams) : Registry :=
  match r.register p with
  | .ok r' => r'
  | .error _ => r

/-- The registry after attempts to register each of `params`, whatever became of them. -/
def attempts (r : Registry) (params : List StakingParams) : Registry := params.foldl attempt r

/-- The registry `r'` holds all that `r` holds, with the same contents. -/
structure IsExtendedBy (r r' : Registry) : Prop where
  checkpoint : r'.checkpoint = r.checkpoint
  /-- Every version that `r` holds keeps its contents in `r'`. -/
  staking? : ∀ version p, r.staking? version = some p → r'.staking? version = some p

theorem IsExtendedBy.refl (r : Registry) : r.IsExtendedBy r := ⟨rfl, fun _ _ h => h⟩

theorem IsExtendedBy.trans (h : r.IsExtendedBy r') (h' : r'.IsExtendedBy r'') :
    r.IsExtendedBy r'' :=
  ⟨h'.checkpoint.trans h.checkpoint, fun version p hp =>
    h'.staking? version p (h.staking? version p hp)⟩

/-- An attempt to register extends the registry or leaves it, since `register` never writes over a
version. -/
theorem isExtendedBy_attempt (r : Registry) (p : StakingParams) : r.IsExtendedBy (r.attempt p) := by
  rw [attempt]
  split
  next r' h =>
    obtain ⟨-, hunique⟩ := exists_register_iff.1 ⟨r', h⟩
    obtain ⟨hcheckpoint, hheld⟩ := staking?_of_register h
    refine ⟨hcheckpoint, fun version q hq => ?_⟩
    rw [hheld]
    split
    next hversion =>
      -- the version has held these parameters already
      rw [hunique q (hversion ▸ hq)]
    next => exact hq
  next => exact .refl r

/-- Whatever one tries to register, a version keeps its contents. -/
theorem isExtendedBy_attempts (r : Registry) (params : List StakingParams) :
    r.IsExtendedBy (r.attempts params) := by
  induction params generalizing r with
  | nil => exact .refl r
  | cons p params ih => exact (r.isExtendedBy_attempt p).trans (ih (r.attempt p))

end Registry

end StakeLedger
