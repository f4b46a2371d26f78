import StakeLedger.Bitcoin.Transaction
import StakeLedger.Bitcoin.Wire

/-!
# The Consensus Encoding of Transactions

Inputs and outputs are written between version and lock time. If some input has a witness, or if
there are no inputs at all, the extended form is used: a zero and a one in front of the inputs, and
the witnesses of all inputs after the outputs. A transaction without inputs would otherwise start
like the extended form, which is why it always takes it.

A reader accepts a text that is exactly one encoding of at most `sizeLimit` bytes. It refuses the
extended form of inputs that all lack a witness, so that no transaction has two encodings.
-/

namespace StakeLedger.Transaction

open Wire

/-- The most bytes an encoding may have to be read back, in `decode?`. -/
def sizeLimit : Nat := 4000000

/-- Whether the extended form is used for `t`: it has no inputs, or one of them has a witness. -/
def isExtended (t : Transaction) : Bool :=
  t.inputs.isEmpty || t.inputs.any fun i => !i.witness.isEmpty

/-- The wire form of the input `i`, without its witness. -/
def encodeInput (i : TxInput) : List UInt8 :=
  littleEndian 32 i.previousOutput.txid.number.toNat ++
    littleEndian 4 i.previousOutput.index.toNat ++
    byteString i.script ++
    littleEndian 4 i.sequence.toNat

/-- The wire form of the output `o`: the amount and the locking script. -/
def encodeOutput (o : TxOutput) : List UInt8 :=
  littleEndian 8 o.value.sats.toNat ++ byteString o.script

/-- The wire form of a witness, which is a list of strings of bytes. -/
def encodeWitness (witness : List (List UInt8)) : List UInt8 := Wire.list byteString witness

/-- The encoding of the transaction `t`, which has the witnesses in it if `t.isExtended`. -/
def encode (t : Transaction) : List UInt8 :=
  littleEndian 4 t.version.toUInt32.toNat ++
    (if t.isExtended then [0, 1] else []) ++
    Wire.list encodeInput t.inputs ++
    Wire.list encodeOutput t.outputs ++
    (if t.isExtended then t.inputs.flatMap fun i => encodeWitness i.witness else []) ++
    littleEndian 4 t.lockTime.toNat

/-- Takes an input, with an empty witness: `takeWitnesses` fills it later. -/
def takeInput : Reader TxInput := do
  let txid ← takeNat 32
  let index ← takeNat 4
  let script ← takeByteString
  let sequence ← takeNat 4
  return {
    previousOutput := ⟨⟨BitVec.ofNat 256 txid⟩, UInt32.ofNat index⟩
    script
    sequence := UInt32.ofNat sequence
    witness := [] }

/-- Takes an output, as `encodeOutput` writes it. -/
def takeOutput : Reader TxOutput := do
  let value ← takeNat 8
  let script ← takeByteString
  return ⟨⟨UInt64.ofNat value⟩, script⟩

/-- Takes the witness of each of the given inputs in turn. -/
def takeWitnesses : List TxInput → Reader (List TxInput)
  | [] => return []
  | i :: rest => do
    let witness ← takeList takeByteString
    return { i with witness } :: (← takeWitnesses rest)

/-- Takes what stands between version and lock time, in either form. The extended form is refused
where all witnesses are empty. -/
def takeBody : Reader (List TxInput × List TxOutput) := do
  let inputs ← takeList takeInput
  if inputs.isEmpty then
    -- the zero was not a count of inputs but the mark of the extended form
    let flag ← takeNat 1
    if flag = 1 then
      let inputs ← takeList takeInput
      let outputs ← takeList takeOutput
      let inputs ← takeWitnesses inputs
      if !inputs.isEmpty && inputs.all (·.witness.isEmpty) then failure
      else return (inputs, outputs)
    else failure
  else
    return (inputs, ← takeList takeOutput)

/-- Takes a transaction, as `encode` writes it. -/
def take : Reader Transaction := do
  let version ← takeNat 4
  let (inputs, outputs) ← takeBody
  let lockTime ← takeNat 4
  return ⟨(UInt32.ofNat version).toInt32, UInt32.ofNat lockTime, inputs, outputs⟩

/-- The transaction that `bytes` encode, all of them and at most `sizeLimit`. -/
def decode? (bytes : List UInt8) : Option Transaction :=
  if bytes.length ≤ sizeLimit then
    match take.run bytes with
    | some (t, []) => some t
    | _ => none
  else none

/-- The hexadecimal text of the encoding of `t`. -/
def hex (t : Transaction) : String := String.ofList (Hex.ofBytes t.encode)

/-- The transaction whose encoding the hexadecimal text `s` shows. -/
def ofHex? (s : String) : Option Transaction := (Hex.bytes? s.toList).bind decode?

end StakeLedger.Transaction
