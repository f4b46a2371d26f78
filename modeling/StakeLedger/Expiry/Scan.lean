import StakeLedger.Lifecycle.Apply

/-!
# Expiry Scans

A scan works off the markers that are due at a height, a page at a time and in marker order. Each
due marker asks for the expiry of its path. A marker is removed once its expiry has been handled,
whether it moved the delegation or came too late; it stays queued if handling it failed. A scan goes
past failed markers to the next page, and ends with a page that is short or free of failures.

Every page starts above the last marker of the page before, which bounds the number of pages.
-/

namespace StakeLedger

/-- What a scan did, in numbers of markers. For what was fetched,
`due = applied + rejected + failed` holds unless a removal failed. -/
structure ScanReport where
  tip : Height
  /-- The number of due markers fetched, over all pages. -/
  due : Nat
  /-- The number of delegations moved by an expiry. -/
  applied : Nat
  /-- The number of expiries that came too late. -/
  rejected : Nat
  /-- The number of markers removed from the queue. -/
  deleted : Nat
  /-- The number of markers left in the queue because handling them failed. -/
  failed : Nat
  deriving DecidableEq, Repr

/-- The report of a scan at `tip` that has done nothing yet. -/
def ScanReport.start (tip : Height) : ScanReport := ⟨tip, 0, 0, 0, 0, 0⟩

/-- The number of possible markers above the one a page starts after, which decreases from page to
page. -/
def Marker.remaining : Option Marker → Nat
  | none => positions
  | some m => positions - 1 - m.position

/-- A marker above the start of a page leaves fewer markers above itself. -/
theorem Marker.remaining_lt {after : Option Marker} {last : Marker}
    (h : ∀ a ∈ after, compare a last = .lt) : remaining (some last) < remaining after := by
  have hl := last.position_lt
  cases after with
  | none => simp only [remaining]; omega
  | some a =>
    have ha := position_lt_of_compare (h a rfl)
    simp only [remaining]
    omega

namespace Registry

/-- Removes the marker `m` whose expiry has been handled, and counts the removal in `report`. -/
def removeMarker (m : Marker) (report : ScanReport) : Program ScanReport :=
  .call (.deleteMarker m) fun
    | .ok .deleted => .done { report with deleted := report.deleted + 1 }
    -- another scan was first, which is no failure
    | .ok .notFound => .done report
    | .error _ => .done { report with failed := report.failed + 1 }

/-- Handles the due marker `m`: applies the expiry of its path, and removes the marker unless that
failed. -/
def handleMarker (registry : Registry) (m : Marker) (report : ScanReport) : Program ScanReport :=
  (registry.apply (.observed m.txid (.timelockExpired m.subState))).bind fun
    | .ok (.applied _ _ _ _ _) => removeMarker m { report with applied := report.applied + 1 }
    -- the stake is not waiting for this path any more, and the marker has no use
    | .ok (.rejected _ _ _) => removeMarker m { report with rejected := report.rejected + 1 }
    | .error _ => .done { report with failed := report.failed + 1 }

/-- Handles the markers of a page in turn, whether or not some of them fail. -/
def handlePage (registry : Registry) : List Marker → ScanReport → Program ScanReport
  | [], report => .done report
  | m :: rest, report => (registry.handleMarker m report).bind (registry.handlePage rest)

/-- Scans the markers due at `tip` that come after `after`, adding to `report`. A full page with
failures is followed by the next one; any other page is the last. -/
def scanAfter (registry : Registry) (pageSize : Nat) (tip : Height) (after : Option Marker)
    (report : ScanReport) : Program (Except TrackingError ScanReport) :=
  .request (.dueMarkers tip after pageSize) fun page =>
    (registry.handlePage page { report with due := report.due + page.length }).bind fun report' =>
      match page.getLast? with
      | none => .done (.ok report')
      | some last =>
        -- what failed stays queued, and would fill the first page of every scan to come
        if page.length = pageSize ∧ report.failed < report'.failed then
          -- a page lists markers above the one it starts after, so the next page starts higher
          if _ : ∀ a ∈ after, compare a last = .lt then
            registry.scanAfter pageSize tip (some last) report'
          else .done (.ok report')
        else .done (.ok report')
termination_by Marker.remaining after
decreasing_by exact Marker.remaining_lt ‹_›

/-- Scans the markers that are due at `tip`, in pages of `pageSize`, from the first one on. -/
def scan (registry : Registry) (pageSize : Nat) (tip : Height) :
    Program (Except TrackingError ScanReport) :=
  registry.scanAfter pageSize tip none (.start tip)

end Registry

end StakeLedger
