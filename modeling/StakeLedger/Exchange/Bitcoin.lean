import StakeLedger.Bitcoin.Signature
import StakeLedger.Bitcoin.Transaction
import StakeLedger.Bitcoin.XOnlyKey
import StakeLedger.Exchange.Form
import StakeLedger.Text.Decimal

/-!
# Forms of Bitcoin Values

Identifiers, keys, signatures and scripts are exchanged as hexadecimal texts, amounts as numbers of
satoshi, and references to outputs as the transaction and the position with a colon between them.
-/

namespace StakeLedger.Form

/-- Transaction identifiers, as 64 hexadecimal digits. -/
def txid : Form Txid := spelled Txid.text Txid.ofText?

/-- Public keys, as 64 hexadecimal digits. -/
def key : Form XOnlyKey := spelled XOnlyKey.text XOnlyKey.ofText?

/-- Signatures, as 128 hexadecimal digits. -/
def signature : Form Signature := spelled Signature.text Signature.ofText?

/-- Amounts, as the number of satoshi. -/
def amount : Form Amount where
  write a := word64.write a.sats
  read? v := (word64.read? v).map Amount.mk

/-- Bytes, as two hexadecimal digits each. -/
def bytes : Form (List UInt8) :=
  spelled (fun bs => String.ofList (Hex.ofBytes bs)) fun s => Hex.bytes? s.toList

/-- The text `txid:index` of a reference to an output. -/
def spellOutPoint (o : OutPoint) : String := s!"{o.txid.text}:{o.index}"

/-- Reads a reference to an output from the text `s`; the position is a canonical decimal
numeral. -/
def readOutPoint? (s : String) : Option OutPoint :=
  match s.toList.span (· ≠ ':') with
  | (txid, ':' :: index) => do
    let txid ← Txid.ofText? (String.ofList txid)
    let index ← Decimal.readCanonical? index
    if index < UInt32.size then some ⟨txid, UInt32.ofNat index⟩ else none
  | _ => none

/-- References to outputs, as texts `txid:index`. -/
def outPoint : Form OutPoint := spelled spellOutPoint readOutPoint?

/-- Inputs of transactions, as records; `script_sig` and the items of `witness` are bytes. -/
def txInput : Form TxInput := Layout.form {
  names := ["previous_output", "script_sig", "sequence", "witness"]
  values := fun i => [outPoint.write i.previousOutput, bytes.write i.script,
    word32.write i.sequence, bytes.list.write i.witness]
  ofFields := fun
    | [previousOutput, script, sequence, witness] => do
      return {
        previousOutput := ← outPoint.required previousOutput
        script := ← bytes.required script
        sequence := ← word32.required sequence
        witness := ← bytes.list.required witness }
    | _ => none }

/-- Outputs of transactions, as records. -/
def txOutput : Form TxOutput := Layout.form {
  names := ["value", "script_pubkey"]
  values := fun o => [amount.write o.value, bytes.write o.script]
  ofFields := fun
    | [value, script] => do
      return { value := ← amount.required value, script := ← bytes.required script }
    | _ => none }

/-- Transactions, as records of their parts and not as encodings. -/
def transaction : Form Transaction := Layout.form {
  names := ["version", "lock_time", "input", "output"]
  values := fun t => [signed32.write t.version, word32.write t.lockTime,
    txInput.list.write t.inputs, txOutput.list.write t.outputs]
  ofFields := fun
    | [version, lockTime, inputs, outputs] => do
      return {
        version := ← signed32.required version
        lockTime := ← word32.required lockTime
        inputs := ← txInput.list.required inputs
        outputs := ← txOutput.list.required outputs }
    | _ => none }

end StakeLedger.Form
