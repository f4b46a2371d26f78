import StakeLedger.Lifecycle.Apply

/-!
# Covenant Signatures

Members of the covenant committee sign delegations one by one. The committee and its quorum are
those of the parameters the delegation was made under. The signature that brings the count to the
quorum crosses it, and triggers the quorum transition; if that transition is lost, the next
signature or a repetition of an old one makes up for it.
-/

namespace StakeLedger

/-- The standing of a delegation after a signature, as the one who offered it is told: `total` of
`quorum` signatures. -/
structure Receipt where
  /-- The number of signatures stored, this one included. -/
  total : Nat
  /-- The number of signatures needed, from the parameters of the delegation. -/
  quorum : Nat
  /-- Whether this signature brought `total` to `quorum`. -/
  crossed : Bool
  deriving DecidableEq, Repr

/-- The signatures stored meet the quorum: `r.quorum ≤ r.total`. -/
def Receipt.IsReached (r : Receipt) : Prop := r.quorum ≤ r.total

instance (r : Receipt) : Decidable r.IsReached := inferInstanceAs (Decidable (_ ≤ _))

/-- What became of a covenant signature that is stored, now or before. -/
structure SigningOutcome where
  receipt : Receipt
  /-- What became of the quorum transition, if this signature has to report it. -/
  transition : Option Outcome
  deriving DecidableEq

namespace Registry

/-- Stores the signature of the covenant member `key`, which has to be in the committee of the
delegation and must not have signed before. -/
def recordSignature (registry : Registry) (txid : Txid) (key : XOnlyKey) (signature : Signature) :
    Program (Except TrackingError Receipt) :=
  .request (.getDelegation txid) fun
    | none => .fail (.delegationNotFound txid)
    | some d =>
      match registry.staking? d.stake.paramsVersion with
      | none => .fail (.unknownParamsVersion d.txid d.stake.paramsVersion)
      | some params =>
        if params.isMember key then
          .request (.saveSignature txid key signature) fun
            -- the store counts, so that of all signatures one alone brings the total to the quorum
            | .inserted total =>
              let quorum := params.quorum.toNat
              .done (.ok ⟨total, quorum, total == quorum⟩)
            | .alreadyExists => .fail (.duplicateSignature txid key)
        else .fail (.unauthorizedSigner txid key)

/-- Counts the signatures of a delegation, which crosses nothing. -/
def tally (registry : Registry) (txid : Txid) : Program (Except TrackingError Receipt) :=
  .request (.getDelegation txid) fun
    | none => .fail (.delegationNotFound txid)
    | some d =>
      match registry.staking? d.stake.paramsVersion with
      | none => .fail (.unknownParamsVersion d.txid d.stake.paramsVersion)
      | some params => .done (.ok ⟨d.signatureCount, params.quorum.toNat, false⟩)

/-- Applies the quorum transition of a delegation, as an event like any other. -/
def applyQuorum (registry : Registry) (txid : Txid) : Program (Except TrackingError Outcome) :=
  registry.apply (.observed txid .covenantQuorumReached)

/-- Stores the signature of a covenant member and applies the quorum transition where it is due. A
signature with `receipt.crossed` reports the transition whatever came of it; one past the quorum
only if it was still to be made; a repeated one is a failure unless it made it. -/
def sign (registry : Registry) (txid : Txid) (key : XOnlyKey) (signature : Signature) :
    Program (Except TrackingError SigningOutcome) :=
  (registry.recordSignature txid key signature).bind fun
    | .ok receipt =>
      -- the crossing signature reports the transition even if another writer made it
      if receipt.crossed then
        (registry.applyQuorum txid).bind fun
          | .error e => .fail e
          | .ok outcome => .done (.ok ⟨receipt, some outcome⟩)
      -- a later signature only makes up for a transition that was lost
      else if receipt.IsReached then
        (registry.applyQuorum txid).bind fun
          | .error e => .fail e
          | .ok outcome => .done (.ok ⟨receipt, if outcome.isApplied then some outcome else none⟩)
      else .done (.ok ⟨receipt, none⟩)
    | .error (.duplicateSignature signed signer) =>
      (registry.tally txid).bind fun
        | .error e => .fail e
        | .ok receipt =>
          -- a repetition may be the retry of a signature whose transition was lost
          if receipt.IsReached then
            (registry.applyQuorum txid).bind fun
              | .error e => .fail e
              | .ok outcome =>
                if outcome.isApplied then .done (.ok ⟨receipt, some outcome⟩)
                else .fail (.duplicateSignature signed signer)
          else .fail (.duplicateSignature signed signer)
    | .error e => .fail e

end Registry

end StakeLedger
