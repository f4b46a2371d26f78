import StakeLedger.Expiry.Scan

/-!
# Ticks

A tick asks where the chain ends, scans at that height and then advances the scanner's cursor to it.
The cursor never moves back: a height at or below its own is scanned, and leaves it alone. A tick
whose height, cursor or scan failed does not move the cursor, and one that loses a race for it still
reports its scan.
-/

namespace StakeLedger

/-- The name of the cursor of the expiry scanner. -/
def scannerCursor : String := "btc_expiry_scanner"

namespace Registry

/-- Scans at the height `tip`, if it is known, and advances the scanner's cursor to it unless the
cursor is there already. -/
def tick (registry : Registry) (pageSize : Nat) (tip : Except ChainError Height) :
    Program (Except TrackingError ScanReport) :=
  match tip with
  | .error e => .fail (.chain e)
  | .ok tip =>
    .request (.getCursor scannerCursor) fun cursor =>
      (registry.scan pageSize tip).bind fun
        | .error e => .fail e
        | .ok report =>
          if cursor.height < tip then
            -- whoever wins the race for the cursor, this scan has been done
            .request (.advanceCursor scannerCursor cursor.version tip) fun _ => .done (.ok report)
          else .done (.ok report)

end Registry

end StakeLedger
