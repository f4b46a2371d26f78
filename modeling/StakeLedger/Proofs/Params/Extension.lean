import StakeLedger.Proofs.Interleaving.Agreement
import StakeLedger.Proofs.Lifecycle.Calls
import StakeLedger.Proofs.Lifecycle.Rejection
import StakeLedger.Proofs.Params.Registration

/-!
# Versions that Are Registered Later

A call looks at the parameters of one version, the one its delegation was made under. Under a
registry that holds more versions it therefore makes the same requests and comes to the same result,
unless the version was unknown (`Registry.IsExtendedBy.agrees_program`).

The main statement is `later_versions_change_nothing`: as long as no call comes upon an unknown
version, it makes no difference what else is registered, before the calls or in between.
-/

namespace StakeLedger

/-- The `result` says that a version is not registered: it is the error `unknownParamsVersion`. -/
def LacksVersion {α : Type} (result : Except TrackingError α) : Prop :=
  ∃ txid version, result = .error (.unknownParamsVersion txid version)

/-- The response to a call says that a version is not registered, be it of an event, a signature or
a scan. -/
def Response.LacksVersion : Response → Prop
  | .applied result => StakeLedger.LacksVersion result
  | .signed result => StakeLedger.LacksVersion result
  | .scanned result => StakeLedger.LacksVersion result

namespace Registry.IsExtendedBy

variable {r r' : Registry} (h : r.IsExtendedBy r')

include h

/-! ## Events -/

/-- An observation is judged by the checkpoint parameters alone, which `r` and `r'` share. -/
theorem apply_observed (txid : Txid) (o : Observation) :
    r'.apply (.observed txid o) = r.apply (.observed txid o) := by
  simp only [apply, transition, h.checkpoint]

/-- A new stake is received alike under `r'`, unless `r` lacks its version. -/
theorem agrees_create (stake : Stake) :
    (r.create stake).AgreesUpTo LacksVersion (r'.create stake) := by
  cases hparams : r.staking? stake.paramsVersion with
  | none =>
    rw [create, hparams]
    exact .bad ⟨_, _, rfl⟩ _
  | some params =>
    rw [create, create, hparams, h.staking? _ _ hparams]
    exact .refl _

/-- An event is applied alike under `r'`, unless `r` lacks the version that it names. -/
theorem agrees_apply (event : Event) :
    (r.apply event).AgreesUpTo LacksVersion (r'.apply event) := by
  cases event with
  | newStake stake => exact h.agrees_create stake
  | observed txid o => exact .of_eq (h.apply_observed txid o)

/-! ## Signatures -/

/-- A signature is recorded alike under `r'`, unless `r` lacks the version of the record that is
read. -/
theorem agrees_recordSignature (txid : Txid) (key : XOnlyKey) (signature : Signature) :
    (r.recordSignature txid key signature).AgreesUpTo LacksVersion
      (r'.recordSignature txid key signature) := by
  refine .request fun found => ?_
  cases found with
  | none => exact .refl _
  | some d =>
    dsimp only
    cases hparams : r.staking? d.stake.paramsVersion with
    | none => exact .bad ⟨_, _, rfl⟩ _
    | some params =>
      rw [h.staking? _ _ hparams]
      exact .refl _

/-- Signatures are counted alike under `r'`, unless `r` lacks the version of the record that is
read. -/
theorem agrees_tally (txid : Txid) : (r.tally txid).AgreesUpTo LacksVersion (r'.tally txid) := by
  refine .request fun found => ?_
  cases found with
  | none => exact .refl _
  | some d =>
    dsimp only
    cases hparams : r.staking? d.stake.paramsVersion with
    | none => exact .bad ⟨_, _, rfl⟩ _
    | some params =>
      rw [h.staking? _ _ hparams]
      exact .refl _

/-- The call `sign` goes on alike under `r'`, unless `r` lacks a version on the way. -/
theorem agrees_sign (txid : Txid) (key : XOnlyKey) (signature : Signature) :
    (r.sign txid key signature).AgreesUpTo LacksVersion (r'.sign txid key signature) := by
  have hquorum : r'.applyQuorum txid = r.applyQuorum txid := h.apply_observed txid _
  simp only [sign, hquorum]
  -- the registries are looked at when the signature is recorded, and again when a repetition is
  -- tallied
  refine (h.agrees_recordSignature txid key signature).bind (fun result => ?_) ?_
  · split
    next => exact .refl _
    next =>
      refine (h.agrees_tally txid).bind (fun _ => .refl _) ?_
      rintro _ ⟨txid', version, rfl⟩
      exact ⟨_, ⟨txid', version, rfl⟩, rfl⟩
    next => exact .refl _
  · rintro _ ⟨txid', version, rfl⟩
    exact ⟨_, ⟨txid', version, rfl⟩, rfl⟩

/-! ## Scans -/

/-- A page is handled alike, since expiries are observations. -/
theorem handlePage_eq (page : List Marker) : r'.handlePage page = r.handlePage page := by
  induction page with
  | nil => rfl
  | cons m rest ih =>
    funext report
    simp only [handlePage, handleMarker, h.apply_observed, ih]

/-- A scan is the same under `r'`. The induction is on the markers above the start of the page. -/
theorem scanAfter_eq (pageSize : Nat) (tip : Height) (after : Option Marker) (report : ScanReport) :
    r'.scanAfter pageSize tip after report = r.scanAfter pageSize tip after report := by
  induction hn : Marker.remaining after using Nat.strongRecOn generalizing after report with
  | _ n ih =>
    rw [scanAfter, scanAfter]
    congr 1
    funext page
    rw [h.handlePage_eq]
    congr 1
    funext report'
    split
    next => rfl
    next last _ =>
      split
      · split
        -- the next page starts further on in the order of all markers
        next hlt => exact ih _ (hn ▸ Marker.remaining_lt hlt) _ report' rfl
        next => rfl
      · rfl

theorem scan_eq (pageSize : Nat) (tip : Height) : r'.scan pageSize tip = r.scan pageSize tip :=
  h.scanAfter_eq pageSize tip none _

/-! ## Calls -/

/-- A call makes the same requests and comes to the same response, unless a version is unknown to
the smaller registry `r`. -/
theorem agrees_program (call : Call) :
    (r.program call).AgreesUpTo Response.LacksVersion (r'.program call) := by
  cases call with
  | apply event =>
    exact (h.agrees_apply event).bind (fun _ => .refl _) fun a ha => ⟨.applied a, ha, rfl⟩
  | sign txid key signature =>
    exact (h.agrees_sign txid key signature).bind (fun _ => .refl _) fun a ha =>
      ⟨.signed a, ha, rfl⟩
  | scan pageSize tip =>
    refine .of_eq ?_
    simp only [program, h.scan_eq]
  | tick pageSize tip =>
    refine .of_eq ?_
    simp only [program, tick, h.scan_eq]

end Registry.IsExtendedBy

/-! ## Calls with Registrations in Between -/

/-- What a ledger is asked for: to answer a call, or to register parameters. -/
inductive Demand where
  | call (call : Call)
  | register (params : StakingParams)

/-- Whether a demand is a call, which gets an answer. -/
def Demand.isCall : Demand → Bool
  | call _ => true
  | register _ => false

namespace Registry

/-- Meets demands one after another: the responses to the calls, and the store they leave. A
registration that fails leaves the registry as it is, by `attempt`. -/
def serve : Registry → List Demand → MemoryStore → List Response × MemoryStore
  | _, [], s => ([], s)
  | registry, .call call :: rest, s =>
    let (response, s') := (registry.program call).run MemoryStore.backend s
    let (responses, s'') := registry.serve rest s'
    (response :: responses, s'')
  | registry, .register params :: rest, s => (registry.attempt params).serve rest s

variable {r r' : Registry}

/-- The calls among `demands` are answered alike under a registry `r'` that holds more versions,
whatever is registered in between. The induction is on the demands, each registration of which
extends the larger registry. -/
theorem IsExtendedBy.serve_eq (h : r.IsExtendedBy r') {demands : List Demand} {s : MemoryStore}
    (hknown : ∀ response ∈ (r.serve (demands.filter (·.isCall)) s).1, ¬response.LacksVersion) :
    r'.serve demands s = r.serve (demands.filter (·.isCall)) s := by
  induction demands generalizing r' s with
  | nil => rfl
  | cons demand rest ih =>
    cases demand with
    | register params => exact ih (h.trans (r'.isExtendedBy_attempt params)) hknown
    | call call =>
      obtain ⟨hfirst, hrest⟩ := List.forall_mem_cons.1 hknown
      have hrun := (h.agrees_program call).run_eq MemoryStore.backend s hfirst
      have hserve := ih h hrest
      simp only [serve, List.filter_cons, Demand.isCall, if_true, hrun, hserve]

end Registry

/-- As long as no version is unknown, it makes no difference which others are registered: a call is
answered alike, and leaves the same store, after any attempts to register; and so are calls that
follow one another, whatever one tries to register in between. -/
theorem later_versions_change_nothing (r : Registry) (s : MemoryStore) :
    (∀ (params : List StakingParams) (call : Call),
      ¬((r.program call).run MemoryStore.backend s).1.LacksVersion →
      ((r.attempts params).program call).run MemoryStore.backend s =
        (r.program call).run MemoryStore.backend s) ∧
    ∀ demands : List Demand,
      (∀ response ∈ (r.serve (demands.filter (·.isCall)) s).1, ¬response.LacksVersion) →
      r.serve demands s = r.serve (demands.filter (·.isCall)) s := by
  constructor
  · intro params call hknown
    exact ((r.isExtendedBy_attempts params).agrees_program call).run_eq MemoryStore.backend s hknown
  · intro demands hknown
    exact (Registry.IsExtendedBy.refl r).serve_eq hknown

/-- A stake is made and signed. Before that and in between, a new version is registered, a committee
too small for its quorum is refused, and so is an attempt to lower the bounds of the version in
use. -/
def interspersed : List Demand :=
  [.register { loneParams with version := 1 }, .call (.apply (.newStake loneStake)),
    .register { loneParams with version := 2, quorum := 2 },
      .register { loneParams with mostAmount := ⟨5⟩ },
    .call (.sign ⟨0⟩ loneKey ⟨1⟩)]

/-- In `interspersed`, the stake is admitted by the bounds it was made under, and its only signature
crosses the quorum. -/
theorem interspersed_unchanged :
    (∀ response ∈ (loneRegistry.serve (interspersed.filter (·.isCall)) .empty).1,
      ¬response.LacksVersion) ∧
    (loneRegistry.serve interspersed .empty).1 =
      [.applied (.ok (.applied ⟨0⟩ none .pending none none)),
        .signed (.ok ⟨⟨1, 1, true⟩, some (.applied ⟨0⟩ (some .pending) .verified none none)⟩)] := by
  have hcalls : (loneRegistry.serve (interspersed.filter (·.isCall)) .empty).1 =
      [.applied (.ok (.applied ⟨0⟩ none .pending none none)),
        .signed (.ok ⟨⟨1, 1, true⟩, some (.applied ⟨0⟩ (some .pending) .verified none none)⟩)] := by
    rfl
  have hknown : ∀ response ∈ (loneRegistry.serve (interspersed.filter (·.isCall)) .empty).1,
      ¬response.LacksVersion := by
    rw [hcalls]
    simp [Response.LacksVersion, LacksVersion]
  refine ⟨hknown, ?_⟩
  rw [(later_versions_change_nothing loneRegistry .empty).2 interspersed hknown, hcalls]

end StakeLedger
