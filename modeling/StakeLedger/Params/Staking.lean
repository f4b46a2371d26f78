import StakeLedger.Delegation.Record
import StakeLedger.Params.Checkpoint

/-!
# Staking Parameters

One version of the staking parameters names a covenant committee with its quorum and bounds the
terms of new stakes. Parameters are checked for being consistent, and stakes against the parameters;
in both cases the first violation in a fixed order is reported.
-/

namespace StakeLedger

/-- The quantity whose lower bound is above its upper bound. -/
inductive BoundedTerm where
  /-- The staked amount, in satoshi. -/
  | stakingValue
  /-- The staking time, in blocks. -/
  | stakingTime
  deriving DecidableEq, Repr

/-- The name of a bounded quantity in the message of `ParamsError.invalidBounds`. -/
def BoundedTerm.name : BoundedTerm → String
  | stakingValue => "staking value"
  | stakingTime => "staking time"

/-- Why parameters cannot be registered, with the numbers that do not fit. -/
inductive ParamsError where
  /-- The `quorum` is zero or above `committeeSize`. -/
  | invalidQuorum (quorum : UInt32) (committeeSize : Nat)
  /-- The `key` stands in the committee twice. -/
  | duplicateCovenantKey (key : XOnlyKey)
  /-- The lower bound `least` is above the upper bound `most`. -/
  | invalidBounds (term : BoundedTerm) (least most : UInt64)
  /-- The `version` is registered with other contents. -/
  | versionConflict (version : ParamsVersion)
  deriving DecidableEq

/-- The text shown for parameters that cannot be registered, with the numbers that do not fit. -/
def ParamsError.message : ParamsError → String
  | invalidQuorum quorum size => s!"covenant quorum {quorum} is invalid for a committee of {size}"
  | duplicateCovenantKey key => s!"duplicate covenant key: {key.text}"
  | invalidBounds term least most => s!"invalid {term.name} bounds: min {least} > max {most}"
  | versionConflict version =>
    s!"params version {version} is already registered with different contents"

/-- How the terms of a stake violate the parameters of its version. -/
inductive TermsViolation where
  /-- The `amount` is below `least` or above `most`. -/
  | stakingAmount (amount least most : Amount)
  /-- The staking time is below `least` or above `most`. -/
  | stakingTime (time least most : Blocks)
  /-- The unbonding time is below `least`; it has no upper bound. -/
  | unbondingTime (time least : Blocks)
  deriving DecidableEq

/-- The text shown for violated terms, with the bounds. -/
def TermsViolation.message : TermsViolation → String
  | stakingAmount amount least most =>
    s!"staking amount {amount.text} is outside of [{least.text}, {most.text}]"
  | stakingTime time least most => s!"staking time {time} is outside of [{least}, {most}]"
  | unbondingTime time least => s!"unbonding time {time} is below the minimum of {least}"

/-- One version of the staking parameters: a committee with its quorum, and the bounds on stakes. -/
structure StakingParams where
  version : ParamsVersion
  /-- The keys of the covenant committee, in the order given. -/
  committee : List XOnlyKey
  /-- The number of members of `committee` that have to sign. -/
  quorum : UInt32
  leastAmount : Amount
  mostAmount : Amount
  leastStakingTime : Blocks
  mostStakingTime : Blocks
  leastUnbondingTime : Blocks
  deriving DecidableEq

/-- The first element of a list that also stands before it, or is one of `seen`. -/
def firstRepeated? {α : Type} [DecidableEq α] (seen : List α) : List α → Option α
  | [] => none
  | a :: rest => if a ∈ seen then some a else firstRepeated? (a :: seen) rest

namespace StakingParams

/-- Checks quorum, committee, amounts and times, in this order, and reports the first that does not
hold. -/
def validate (p : StakingParams) : Except ParamsError Unit :=
  if p.quorum = 0 ∨ p.committee.length < p.quorum.toNat then
    .error (.invalidQuorum p.quorum p.committee.length)
  else match firstRepeated? [] p.committee with
    | some key => .error (.duplicateCovenantKey key)
    | none =>
      if p.mostAmount < p.leastAmount then
        .error (.invalidBounds .stakingValue p.leastAmount.sats p.mostAmount.sats)
      else if p.mostStakingTime < p.leastStakingTime then
        .error (.invalidBounds .stakingTime p.leastStakingTime.toUInt64 p.mostStakingTime.toUInt64)
      else .ok ()

/-- Whether `key` belongs to the covenant committee. -/
def isMember (p : StakingParams) (key : XOnlyKey) : Bool := decide (key ∈ p.committee)

/-- Checks the terms of `stake`: amount, staking time and unbonding time, in this order. -/
def checkTerms (p : StakingParams) (stake : Stake) : Except TermsViolation Unit :=
  if stake.amount < p.leastAmount ∨ p.mostAmount < stake.amount then
    .error (.stakingAmount stake.amount p.leastAmount p.mostAmount)
  else if stake.stakingTime < p.leastStakingTime ∨ p.mostStakingTime < stake.stakingTime then
    .error (.stakingTime stake.stakingTime p.leastStakingTime p.mostStakingTime)
  else if stake.unbondingTime < p.leastUnbondingTime then
    .error (.unbondingTime stake.unbondingTime p.leastUnbondingTime)
  else .ok ()

end StakingParams

end StakeLedger
