import StakeLedger.Proofs.Lifecycle.Rejection
import StakeLedger.Proofs.Params.Registration

/-!
# Loading Parameters

A list of parameters can be loaded exactly if each entry is consistent and no version has two
contents (`Registry.exists_load_iff`). The registry that is loaded is the one that holds the entries
of the list (`Registry.holds_of_load`), and so it depends neither on their order nor on how often
they are repeated.

The main statement is `consistent_list_loads`.
-/

namespace StakeLedger

/-- The parameters of the list `params` are consistent, and no version has two contents. -/
structure IsLoadable (params : List StakingParams) : Prop where
  /-- Every entry of `params` is consistent by itself. -/
  consistent : ∀ p ∈ params, p.IsConsistent
  /-- Entries `p` and `q` of one version are equal. -/
  unique : ∀ p ∈ params, ∀ q ∈ params, p.version = q.version → p = q

namespace Registry

variable {r r' : Registry} {checkpoint : CheckpointParams} {params params' : List StakingParams}

/-- The registry `r` holds the entries of `params`, each under its version, and nothing else. -/
structure Holds (r : Registry) (checkpoint : CheckpointParams)
    (params : List StakingParams) : Prop where
  /-- The checkpoint parameters are those that were given. -/
  checkpoint : r.checkpoint = checkpoint
  /-- A `version` holds the entry of `params` that has this version, if there is one. -/
  staking?_iff : ∀ version p, r.staking? version = some p ↔ p ∈ params ∧ p.version = version

/-- There is one registry only that holds the entries of a list, whatever their order. -/
theorem Holds.unique (h : r.Holds checkpoint params) (h' : r'.Holds checkpoint params')
    (hmem : ∀ p, p ∈ params' ↔ p ∈ params) : r' = r := by
  refine eq_of_staking? (h'.checkpoint.trans h.checkpoint.symm) fun version =>
    Option.ext fun p => ?_
  rw [h'.staking?_iff, h.staking?_iff, hmem]

/-- A registry holds what it lists, `r.all`. -/
theorem holds_all (r : Registry) : r.Holds r.checkpoint r.all := by
  refine ⟨rfl, fun version p => ?_⟩
  rw [mem_all_iff]
  constructor
  · intro h
    obtain rfl := version_of_staking? h
    exact ⟨h, rfl⟩
  · rintro ⟨h, rfl⟩
    exact h

/-- What a registry lists was checked when it was registered, and is listed once for each version,
so that it can be loaded. -/
theorem isLoadable_all (r : Registry) : IsLoadable r.all := by
  constructor
  · intro p hp
    exact StakingParams.validate_eq_ok_iff.1 (validate_of_staking? (mem_all_iff.1 hp))
  · intro p hp q hq hversion
    have hq' := mem_all_iff.1 hq
    rw [← hversion, mem_all_iff.1 hp] at hq'
    exact Option.some.inj hq'

/-- The last entry `p` of a list is registered after the others. -/
theorem load_concat (checkpoint : CheckpointParams) (params : List StakingParams)
    (p : StakingParams) :
    load checkpoint (params ++ [p]) = (load checkpoint params).bind (·.register p) := by
  rw [load, List.foldlM_append]
  show (load checkpoint params).bind (fun r => [p].foldlM register r) = _
  congr 1
  funext r
  show (r.register p).bind (fun r' => .ok r') = _
  cases r.register p <;> rfl

/-- What was loaded holds the entries of the list. The induction is on the entries from the last
one, which is registered in what the others have left. -/
theorem holds_of_load (h : load checkpoint params = .ok r) : r.Holds checkpoint params := by
  induction params using List.reverseRecOn generalizing r with
  | nil =>
    obtain rfl := Except.ok.inj h
    exact ⟨rfl, fun version p => ⟨nofun, nofun⟩⟩
  | append_singleton params p ih =>
    rw [load_concat] at h
    cases hfirst : load checkpoint params with
    | error e =>
      rw [hfirst] at h
      cases h
    | ok first =>
      rw [hfirst] at h
      -- the last entry went through, and so agrees with one under its version
      obtain ⟨-, hunique⟩ := exists_register_iff.1 ⟨r, h⟩
      obtain ⟨hcheckpoint, hheld⟩ := staking?_of_register h
      have hfirst := ih hfirst
      refine ⟨hcheckpoint.trans hfirst.checkpoint, fun version q => ?_⟩
      rw [hheld]
      split
      next hversion =>
        subst hversion
        simp only [Option.some.injEq, List.mem_append, List.mem_singleton]
        constructor
        · rintro rfl
          exact ⟨.inr rfl, rfl⟩
        · rintro ⟨hmem | rfl, hq⟩
          · exact (hunique q ((hfirst.staking?_iff _ _).2 ⟨hmem, hq⟩)).symm
          · rfl
      next hne =>
        rw [hfirst.staking?_iff, List.mem_append, List.mem_singleton]
        constructor
        · rintro ⟨hmem, hq⟩
          exact ⟨.inl hmem, hq⟩
        · rintro ⟨hmem | rfl, hq⟩
          · exact ⟨hmem, hq⟩
          · exact absurd hq.symm hne

/-- A list can be loaded exactly if it `IsLoadable`. -/
theorem exists_load_iff : (∃ r, load checkpoint params = .ok r) ↔ IsLoadable params := by
  induction params using List.reverseRecOn with
  | nil => exact ⟨fun _ => ⟨by simp, by simp⟩, fun _ => ⟨_, rfl⟩⟩
  | append_singleton params p ih =>
    constructor
    · rintro ⟨r', h⟩
      have hholds := holds_of_load h
      rw [load_concat] at h
      cases hfirst : load checkpoint params with
      | error e =>
        rw [hfirst] at h
        cases h
      | ok r =>
        rw [hfirst] at h
        obtain ⟨hconsistent, -⟩ := exists_register_iff.1 ⟨r', h⟩
        have hothers := (ih.1 ⟨r, hfirst⟩).consistent
        constructor
        · intro q hq
          rcases List.mem_append.1 hq with hq | hq
          · exact hothers q hq
          · rw [List.mem_singleton.1 hq]
            exact hconsistent
        · -- both entries are what the registry holds under their version
          intro q hq q' hq' hversion
          have hheld := (hholds.staking?_iff q'.version q).2 ⟨hq, hversion⟩
          have hheld' := (hholds.staking?_iff q'.version q').2 ⟨hq', rfl⟩
          exact Option.some.inj (hheld.symm.trans hheld')
    · -- any part of a loadable list is loadable, and the last entry conflicts with none
      intro h
      obtain ⟨r, hr⟩ := ih.2 ⟨fun q hq => h.consistent q (List.mem_append_left _ hq),
        fun q hq q' hq' => h.unique q (List.mem_append_left _ hq) q' (List.mem_append_left _ hq')⟩
      have hlast : p ∈ params ++ [p] := by simp
      obtain ⟨r', hr'⟩ := exists_register_iff.2 ⟨h.consistent p hlast, fun q hq => by
        obtain ⟨hmem, hversion⟩ := ((holds_of_load hr).staking?_iff _ _).1 hq
        exact h.unique q (List.mem_append_left _ hmem) p hlast hversion⟩
      exact ⟨r', by rw [load_concat, hr]; exact hr'⟩

/-- Lists with the same entries load the same registry, whatever their order and however often an
entry is repeated. -/
theorem load_eq_ok_of_mem_iff (h : r.Holds checkpoint params) (hloadable : IsLoadable params)
    (hmem : ∀ p, p ∈ params' ↔ p ∈ params) : load checkpoint params' = .ok r := by
  have hloadable' : IsLoadable params' := ⟨fun p hp => hloadable.consistent p ((hmem p).1 hp),
    fun p hp q hq => hloadable.unique p ((hmem p).1 hp) q ((hmem q).1 hq)⟩
  obtain ⟨r', hr'⟩ : ∃ r', load checkpoint params' = .ok r' := exists_load_iff.2 hloadable'
  rw [hr', h.unique (holds_of_load hr') hmem]

end Registry

/-- A list of parameters is loaded exactly if its entries are consistent and no version has two
contents. Then each version holds its entry, the versions are listed in ascending order, and every
list of the same entries gives the same registry. What a registry lists, `r.all`, loads it again.
However many attempts to register follow one another, a version keeps its contents, and an attempt
that fails leaves the registry as it is. -/
theorem consistent_list_loads :
    (∀ p : StakingParams, p.validate = .ok () ↔ p.IsConsistent) ∧
    (∀ checkpoint params, (∃ r, Registry.load checkpoint params = .ok r) ↔ IsLoadable params) ∧
    (∀ checkpoint params r, Registry.load checkpoint params = .ok r →
      r.checkpoint = checkpoint ∧
      (∀ version p, r.staking? version = some p ↔ p ∈ params ∧ p.version = version) ∧
      (r.all.map (·.version)).Pairwise (· < ·) ∧
      ∀ params', (∀ p, p ∈ params' ↔ p ∈ params) → Registry.load checkpoint params' = .ok r) ∧
    (∀ r : Registry, Registry.load r.checkpoint r.all = .ok r) ∧
    ∀ r : Registry,
      (∀ before after version p, (r.attempts before).staking? version = some p →
        (r.attempts (before ++ after)).staking? version = some p) ∧
      ∀ p, ((∃ r', r.register p = .ok r') ↔
          p.IsConsistent ∧ ∀ q, r.staking? p.version = some q → q = p) ∧
        ∀ e, r.register p = .error e → r.attempt p = r := by
  refine ⟨fun p => StakingParams.validate_eq_ok_iff, fun _ _ => Registry.exists_load_iff,
    ?_, ?_, ?_⟩
  · intro checkpoint params r h
    have hholds := Registry.holds_of_load h
    have hloadable := Registry.exists_load_iff.1 ⟨r, h⟩
    exact ⟨hholds.checkpoint, hholds.staking?_iff, r.ascending_versions,
      fun _ => Registry.load_eq_ok_of_mem_iff hholds hloadable⟩
  · intro r
    exact Registry.load_eq_ok_of_mem_iff r.holds_all r.isLoadable_all fun _ => Iff.rfl
  · intro r
    refine ⟨fun before after version p hp => ?_, fun p =>
      ⟨Registry.exists_register_iff, fun e he => ?_⟩⟩
    · have hmore := (r.attempts before).isExtendedBy_attempts after
      rw [Registry.attempts, List.foldl_append]
      exact hmore.staking? version p hp
    · rw [Registry.attempt, he]

/-- Parameters of two versions, the later one listed twice. -/
def repeatedParams : List StakingParams :=
  [{ loneParams with version := 7 }, loneParams, { loneParams with version := 7 }]

/-- The list `repeatedParams` is loaded, and loads the same registry without the repetition and in
order. -/
theorem repeatedParams_load : ∃ r, Registry.load ⟨1, 1⟩ repeatedParams = .ok r ∧
    Registry.load ⟨1, 1⟩ [loneParams, { loneParams with version := 7 }] = .ok r ∧
    r.staking? 0 = some loneParams ∧ r.staking? 3 = none := by
  obtain ⟨hvalidate, hloads, hloaded, -⟩ := consistent_list_loads
  have hloadable : IsLoadable repeatedParams := by
    have hvalid : ∀ p ∈ repeatedParams, p.validate = .ok () := by decide +kernel
    exact ⟨fun p hp => (hvalidate p).1 (hvalid p hp), by decide +kernel⟩
  obtain ⟨r, hr⟩ := (hloads ⟨1, 1⟩ repeatedParams).2 hloadable
  obtain ⟨-, hheld, -, hsame⟩ := hloaded _ _ r hr
  refine ⟨r, hr, hsame _ (fun p => ?_), (hheld 0 loneParams).2 (by decide +kernel), ?_⟩
  · simp only [repeatedParams, List.mem_cons, List.not_mem_nil, or_false]
    tauto
  · refine Option.eq_none_iff_forall_ne_some.2 fun p hp => ?_
    obtain ⟨hmem, hversion⟩ := (hheld 3 p).1 hp
    have hnone : ∀ p ∈ repeatedParams, p.version ≠ 3 := by decide +kernel
    exact hnone p hmem hversion

end StakeLedger
