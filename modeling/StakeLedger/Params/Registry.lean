import StakeLedger.Params.Staking

/-!
# The Parameter Registry

A registry holds the checkpoint parameters and the staking parameters of every known version. What
is registered has been checked and is never altered: registering a version again is accepted only
with the same contents.
-/

namespace StakeLedger

/-- All known versions of the staking parameters. What is registered has passed `validate`. -/
structure Registry where
  /-- When a transaction counts as final, which is the same for all versions. -/
  checkpoint : CheckpointParams
  /-- The staking parameters by version, among which `staking?` looks. -/
  versions : SortedMap ParamsVersion StakingParams
  /-- Every entry has passed `validate` and stands under its own version. -/
  sound : ∀ e ∈ versions.entries, e.2.version = e.1 ∧ e.2.validate = .ok ()
  deriving DecidableEq

namespace Registry

/-- The registry with the given `checkpoint` parameters and no versions. -/
def empty (checkpoint : CheckpointParams) : Registry where
  checkpoint
  versions := .empty
  sound := by simp [SortedMap.empty]

instance : Inhabited Registry := ⟨empty default⟩

/-- The staking parameters of `version`, if it is registered. -/
def staking? (r : Registry) (version : ParamsVersion) : Option StakingParams :=
  r.versions.find? version

/-- The registry `r` with the parameters `p`, which passed `validate`, under their version. -/
def add (r : Registry) (p : StakingParams) (h : p.validate = .ok ()) : Registry where
  checkpoint := r.checkpoint
  versions := r.versions.insert p.version p
  sound := fun e he => by
    rcases SortedMap.mem_insert he with rfl | he
    · exact ⟨rfl, h⟩
    · exact r.sound e he

/-- Registers the parameters `p`: first they are checked, then compared with what their version
holds. -/
def register (r : Registry) (p : StakingParams) : Except ParamsError Registry :=
  match h : p.validate with
  | .error e => .error e
  | .ok () =>
    match r.staking? p.version with
    -- what is registered stays; only a repetition of it is accepted
    | some existing => if existing = p then .ok r else .error (.versionConflict p.version)
    | none => .ok (r.add p h)

/-- Registers `params` one after another, up to the first that cannot be registered. -/
def load (checkpoint : CheckpointParams) (params : List StakingParams) :
    Except ParamsError Registry :=
  params.foldlM register (empty checkpoint)

/-- The most recent version, if any is registered. -/
def latestVersion? (r : Registry) : Option ParamsVersion := r.versions.keys.getLast?

/-- The staking parameters of all versions, in ascending order of `version`. -/
def all (r : Registry) : List StakingParams := r.versions.values

end Registry

end StakeLedger
