import StakeLedger.Bitcoin.Transaction.Encoding
import StakeLedger.Database.Datum
import StakeLedger.Database.KeyList
import StakeLedger.Exchange.Delegation
import StakeLedger.Store.Error

/-!
# Column Encodings

Numbers are stored as signed ones of 64 bits. Heights and amounts are stored with their bits
reinterpreted, so that numbers from two to the 63rd upwards are stored as negative ones; amounts are
read back, negative heights are refused. A column of numbers that holds anything but an integer is
refused. Identifiers, keys, signatures and transactions are stored as hexadecimal text, states by
name, and sets of keys as a list in JSON.

The main statements are that what a column stores is read back.
-/

namespace StakeLedger.Column

/-- The outcome of reading a column: a value, or why there is none. -/
abbrev Decoded (α : Type) := Except ColumnFailure α

/-- Reads the text `s` by `read?` as a `value` of some kind. -/
def decodeWith {α : Type} (value : EncodedValue) (read? : String → Option α) (s : String) :
    Decoded α :=
  match read? s with
  | some a => .ok a
  | none => .error (.undecodable value)

/-- Reads a transaction identifier from its text, `Txid.text`. -/
def decodeTxid : String → Decoded Txid := decodeWith .txid Txid.ofText?

/-- Reads a key from its text, `XOnlyKey.text`. -/
def decodeKey : String → Decoded XOnlyKey := decodeWith .key XOnlyKey.ofText?

/-- Reads a signature from its text, `Signature.text`. -/
def decodeSignature : String → Decoded Signature := decodeWith .signature Signature.ofText?

/-- Reads a transaction from the text of its encoding, `Transaction.hex`. -/
def decodeTransaction : String → Decoded Transaction := decodeWith .transaction Transaction.ofHex?

/-- Reads the name `s` by `ofName?`, whose failure is that of the column. -/
def decodeName {α : Type} (ofName? : String → Except UnknownName α) (s : String) : Decoded α :=
  (ofName? s).mapError .unknownName

/-- Reads an integer; a failure says what was `expected` in its place. -/
def decodeInteger (expected : ExpectedNumber) : Datum → Decoded Int64
  | .integer n => .ok n
  | .real _ => .error (.notInteger expected .real)
  | .text _ => .error (.notInteger expected .text)

/-- The datum stored for the height `h`, negative from `2 ^ 63` upwards. -/
def encodeHeight (h : Height) : Datum := .integer h.toInt64

/-- Reads a height, which is not negative. -/
def decodeHeight (expected : ExpectedNumber) (d : Datum) : Decoded Height := do
  let n ← decodeInteger expected d
  if n < 0 then throw .negativeHeight else return n.toUInt64

/-- The datum stored for the amount `a`, negative from `2 ^ 63` satoshi upwards. -/
def encodeAmount (a : Amount) : Datum := .integer a.sats.toInt64

/-- Reads an amount, which may be stored as a negative number. -/
def decodeAmount (d : Datum) : Decoded Amount := (decodeInteger .amount d).map fun n => ⟨n.toUInt64⟩

/-- The datum stored for a number of 32 bits, which is never negative. -/
def encodeWord (n : UInt32) : Datum := .integer n.toUInt64.toInt64

/-- Reads a number of 32 bits, refusing what is below or above its range. -/
def decodeWord (d : Datum) : Decoded UInt32 := do
  let n ← decodeInteger .word d
  if n < 0 then throw .numberTooSmall
  else if n.toUInt64 < 4294967296 then return n.toUInt64.toUInt32
  else throw .numberTooLarge

/-- The text stored for a set of keys: the list of their texts in JSON. -/
def encodeKeys (keys : SortedSet XOnlyKey) : String := Json.text (Form.keySet.write keys)

/-- Reads a set of keys; where that fails, `KeyList.misreading` says why. -/
def decodeKeys (s : String) : Decoded (SortedSet XOnlyKey) :=
  match (Json.read? s).bind Form.keySet.read? with
  | some keys => .ok keys
  | none => .error (.malformedKeys (KeyList.misreading s))

/-- Reads a column of a row; a failure gets the `name` of the column. -/
def read {α : Type} (name : String) (d : Decoded α) : Except DriverFailure α :=
  d.mapError (.column name)

/-- Reads a column that may hold nothing, by `decode` if it holds something. -/
def readOptional {α β : Type} (name : String) (decode : β → Decoded α) :
    Option β → Except DriverFailure (Option α)
  | none => .ok none
  | some b => (read name (decode b)).map some

/-- A stored identifier is read back. -/
theorem decodeTxid_text (t : Txid) : decodeTxid t.text = .ok t := by
  simp [decodeTxid, decodeWith, Txid.ofText?_text]

/-- A stored key is read back. -/
theorem decodeKey_text (k : XOnlyKey) : decodeKey k.text = .ok k := by
  simp [decodeKey, decodeWith, XOnlyKey.ofText?_text]

/-- A stored signature is read back. -/
theorem decodeSignature_text (s : Signature) : decodeSignature s.text = .ok s := by
  simp [decodeSignature, decodeWith, Signature.ofText?_text]

/-- A stored amount is read back, however large it is: `decodeAmount` undoes the change of sign. -/
theorem decodeAmount_encodeAmount (a : Amount) : decodeAmount (encodeAmount a) = .ok a := by
  simp [decodeAmount, encodeAmount, decodeInteger, Except.map]

end StakeLedger.Column
