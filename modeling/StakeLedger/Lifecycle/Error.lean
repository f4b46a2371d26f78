import StakeLedger.Params.Staking
import StakeLedger.Store.Error

/-!
# Tracking Failures

What can go wrong while an event, a signature or a scan is handled. A transition that its state does
not allow is not a failure. Transient failures may go away when the same event is delivered again.
-/

namespace StakeLedger

/-- A failure to learn where the chain ends, on which every tick depends. -/
inductive ChainError where
  /-- The request was not answered, or answered with an error. -/
  | rpc (text : String)
  /-- The answer makes no sense. -/
  | unexpectedResponse (text : String)
  /-- The client cannot be set up. -/
  | config (text : String)
  deriving DecidableEq, Repr

/-- The text shown for a chain failure, which begins with its cause. -/
def ChainError.message : ChainError → String
  | rpc text => s!"rpc: {text}"
  | unexpectedResponse text => s!"unexpected response: {text}"
  | config text => s!"invalid client config: {text}"

/-- A failure to handle an event, a signature or a scan. One that is about a delegation has its
`txid`. -/
inductive TrackingError where
  /-- The store did not serve a request. -/
  | store (error : StoreError)
  | delegationNotFound (txid : Txid)
  /-- The delegation is bound to a `version` that is not registered. -/
  | unknownParamsVersion (txid : Txid) (version : ParamsVersion)
  /-- The covenant member `key` has signed the delegation already. -/
  | duplicateSignature (txid : Txid) (key : XOnlyKey)
  /-- The signer `key` is not in the committee of the delegation. -/
  | unauthorizedSigner (txid : Txid) (key : XOnlyKey)
  /-- The terms of a new stake violate its parameters. -/
  | invalidStakingTerms (txid : Txid) (violation : TermsViolation)
  /-- The staking transaction, included at `inclusion`, has fewer than `required` confirmations at
  `tip`. -/
  | insufficientConfirmations (txid : Txid) (inclusion tip : Height) (required : UInt64)
  /-- The end of the timelock, `height + blocks`, is not a height. -/
  | heightOverflow (txid : Txid) (height : Height) (blocks : Blocks)
  | chain (error : ChainError)
  deriving DecidableEq

namespace TrackingError

/-- The text shown for a tracking failure, which names the delegation if it is about one. -/
def message : TrackingError → String
  | store error => s!"store unavailable: {error.message}"
  | delegationNotFound txid => s!"delegation {txid.text} not found"
  | unknownParamsVersion txid version =>
    s!"unknown params version {version} for delegation {txid.text}"
  | duplicateSignature txid key => s!"covenant {key.text} already signed delegation {txid.text}"
  | unauthorizedSigner txid key =>
    s!"{key.text} is not a covenant member for delegation {txid.text}"
  | invalidStakingTerms txid violation =>
    s!"invalid staking terms for delegation {txid.text}: {violation.message}"
  | insufficientConfirmations txid inclusion tip depth =>
    s!"delegation {txid.text} included at {inclusion} is not confirmed at tip {tip} (depth {depth})"
  | heightOverflow txid height blocks =>
    s!"timelock of {blocks} blocks from height {height} overflows for delegation {txid.text}"
  | chain error => s!"chain client: {error.message}"

/-- Whether the same event may succeed when it is delivered again. -/
def isTransient : TrackingError → Bool
  | store _ | chain _ | insufficientConfirmations _ _ _ _ => true
  | _ => false

end TrackingError

end StakeLedger
