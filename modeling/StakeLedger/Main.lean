import StakeLedger.Database.Session
import StakeLedger.Expiry.Tick
import StakeLedger.Service.Launch

/-!
# The Program

The program launches the service and then ticks once for each line on its input, which is the body
of a reply of the node. The report of each tick is printed.
-/

namespace StakeLedger.CommandLine

/-- The contents of the text file at `path`, if it can be read. -/
def contents? (path : String) : IO (Option String) := do
  try
    return some (← IO.FS.readFile path)
  catch _ => return none

/-- The files among `paths`, with their contents. -/
def filesAmong (paths : List String) : IO (List (String × String)) := do
  let mut files := []
  for path in paths do
    if let some text ← contents? path then files := files ++ [(path, text)]
  return files

/-- The values of the environment variables that are looked at. -/
def environmentValues : IO (List (String × String)) := do
  let mut values := []
  for name in collectorVariable :: Flag.all.map Flag.environmentName do
    if let some value ← IO.getEnv name then values := values ++ [(name, value)]
  return values

/-- The file tree a launch finds: first the files the flags name, then the ones that stand where the
settings want a directory. -/
def tree (environment : String → Option String) (arguments : List String) : IO FileTree := do
  let here := ((← IO.currentDir).toString.splitOn "/").filter (!·.isEmpty)
  let named := match Flags.parse arguments environment with
    | .ok flags => [flags.params, flags.config]
    | .error _ => []
  let found := FileTree.ofTexts here (← filesAmong named)
  match (Launching.load environment arguments).run found with
  | (.error _, _) => return found
  | (.ok c, _) =>
    let directory := c.settings.dataDirectory
    let around := (FileTree.ancestors directory).map fun steps => "/".intercalate steps
    let files ← filesAmong (around.reverse ++ [directory])
    return files.foldl (fun t (path, text) => t.putText path text) found

/-- The line printed for a tick: the numbers of its report, or its failure. -/
def reportLine : Except TrackingError ScanReport → String
  | .ok r =>
    s!"tip {r.tip}: {r.due} due, {r.applied} applied, {r.rejected} rejected, {r.deleted} deleted, "
      ++ s!"{r.failed} failed"
  | .error e => e.message

/-- Ticks once per line of `input`, the first of which is the reply to the request with the number
`id`. -/
partial def serve (c : Configuration) (input : IO.FS.Stream) (id : Nat) (session : Session) :
    IO Unit := do
  let line ← input.getLine
  if line.isEmpty then return
  let tip := Node.tip id (.response 200 line)
  let tick := c.registry.tick c.settings.scanner.pageSize.toNat tip
  let (result, session) := tick.run (Session.backend c.settings.database.maxRetries.toNat) session
  IO.println (reportLine result)
  serve c input (id + 1) session

/-- Launches the service with the given `arguments` and serves; the exit code tells whether it was
launched. -/
def run (arguments : List String) : IO UInt32 := do
  let values ← environmentValues
  let environment := fun name => values.lookup name
  match (Launching.launch environment arguments).run (← tree environment arguments) with
  | (.error stop, _) =>
    IO.print (stop.output environment)
    unless stop.errorLine.isEmpty do IO.eprintln stop.errorLine
    return UInt32.ofNat stop.code
  | (.ok c, _) =>
    unless c.settings.dataDirectory.isEmpty do IO.FS.createDirAll c.settings.dataDirectory
    serve c (← IO.getStdin) 0 .fresh
    return 0

end StakeLedger.CommandLine

/-- Runs the program. -/
def main (arguments : List String) : IO UInt32 := StakeLedger.CommandLine.run arguments
