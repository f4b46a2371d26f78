/-!
# The Wire Form of Integers and Lists

Integers are written least significant byte first. The length of a list is written in the shortest
of four forms: one byte below 253, or a marker byte and an integer of two, four or eight bytes; a
longer form than needed is refused.

A reader takes bytes from the front of a list and leaves the rest; it fails where the bytes end.
-/

namespace StakeLedger.Wire

/-- Takes a value from the front of a list of bytes and leaves the rest, or fails. -/
abbrev Reader := StateT (List UInt8) Option

/-- The last `width` bytes of the number `n`, least significant first. -/
def littleEndian : (width : Nat) → Nat → List UInt8
  | 0, _ => []
  | width + 1, n => UInt8.ofNat n :: littleEndian width (n / 256)

/-- The number whose bytes are listed, least significant first. -/
def ofLittleEndian : List UInt8 → Nat
  | [] => 0
  | b :: rest => b.toNat + 256 * ofLittleEndian rest

/-- Takes `count` bytes, if there are so many. -/
def takeBytes (count : Nat) : Reader (List UInt8) := fun bytes =>
  if count ≤ bytes.length then some (bytes.take count, bytes.drop count) else none

/-- Takes an integer of `width` bytes. -/
def takeNat (width : Nat) : Reader Nat := do
  return ofLittleEndian (← takeBytes width)

/-- The length `n` of a list in its shortest form. -/
def compactSize (n : Nat) : List UInt8 :=
  if n < 253 then [UInt8.ofNat n]
  else if n < UInt16.size then 253 :: littleEndian 2 n
  else if n < UInt32.size then 254 :: littleEndian 4 n
  else 255 :: littleEndian 8 n

/-- Takes the length of a list, refusing a form longer than `compactSize` would use. -/
def takeCompactSize : Reader Nat := do
  let marker ← takeNat 1
  if marker < 253 then return marker
  let (width, least) : Nat × Nat :=
    if marker = 253 then (2, 253) else if marker = 254 then (4, UInt16.size) else (8, UInt32.size)
  let n ← takeNat width
  -- a number that fits in a shorter form has to use it
  if least ≤ n then return n else failure

/-- A string of `bytes`, preceded by its length. -/
def byteString (bytes : List UInt8) : List UInt8 := compactSize bytes.length ++ bytes

/-- Takes a string of bytes, of the length in front of it. -/
def takeByteString : Reader (List UInt8) := do
  takeBytes (← takeCompactSize)

/-- Takes a given number of items, one after another by `item`. -/
def takeCount {α : Type} (item : Reader α) : Nat → Reader (List α)
  | 0 => return []
  | count + 1 => do
    let first ← item
    return first :: (← takeCount item count)

/-- The wire forms `item` of some `items`, one after another, preceded by their number. -/
def list {α : Type} (item : α → List UInt8) (items : List α) : List UInt8 :=
  compactSize items.length ++ items.flatMap item

/-- Takes a list of items, of the number in front of it. -/
def takeList {α : Type} (item : Reader α) : Reader (List α) := do
  takeCount item (← takeCompactSize)

end StakeLedger.Wire
