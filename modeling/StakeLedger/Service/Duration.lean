/-!
# Durations

A duration counts seconds and nanoseconds, of which there are always fewer than make a second.
-/

namespace StakeLedger

/-- A length of time in `seconds` and `nanos`, written in one way only. -/
structure Duration where
  seconds : UInt64
  nanos : UInt32
  /-- The nanoseconds do not make a second. -/
  nanos_lt : nanos.toNat < 1000000000 := by decide
  deriving DecidableEq

namespace Duration

/-- The duration of any number of nanoseconds on top of seconds, if the seconds they make up can be
added in 64 bits. -/
def ofParts? (seconds : UInt64) (nanos : UInt32) : Option Duration :=
  let total := seconds.toNat + nanos.toNat / 1000000000
  if total < UInt64.size then
    some {
      seconds := UInt64.ofNat total
      nanos := nanos % 1000000000
      nanos_lt := by
        rw [UInt32.toNat_mod]
        exact Nat.mod_lt _ (by decide) }
  else none

/-- The whole milliseconds of the duration `d`, counted in 64 bits. -/
def milliseconds (d : Duration) : UInt64 := d.seconds * 1000 + (d.nanos / 1000000).toUInt64

/-- A duration is made again from its parts, `d.seconds` and `d.nanos`. -/
theorem ofParts?_parts (d : Duration) : ofParts? d.seconds d.nanos = some d := by
  have hs := d.seconds.toNat_lt
  have hn := d.nanos_lt
  have hmod : d.nanos % 1000000000 = d.nanos := by
    apply UInt32.toNat.inj
    rw [UInt32.toNat_mod]
    exact Nat.mod_eq_of_lt hn
  simp only [ofParts?, Nat.div_eq_of_lt hn, Nat.add_zero, hs, ↓reduceIte, UInt64.ofNat_toNat, hmod]

end Duration

end StakeLedger
