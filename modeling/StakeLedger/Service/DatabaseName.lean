import StakeLedger.Text.Percent

/-!
# Names of Databases

A database is named by the path of its file. A name that starts with `file:` is a resource instead,
whose parts are percent-encoded: an authority that is empty or the local host, a path, options
behind a question mark, and a fragment that does not count. An encoded zero byte cuts off the rest
of its part.
-/

namespace StakeLedger.DatabaseName

/-- What the name of a database stands for. -/
inductive Target where
  | memory
  /-- The file at `path`; a missing one is made only if `mayMake`. -/
  | file (path : String) (mayMake : Bool)
  deriving DecidableEq, Repr

/-- The text that the part `s` of a resource stands for, up to an encoded zero byte. -/
def part? (s : List Char) : Option String :=
  Percent.text? ((Percent.decode s).takeWhile (· ≠ 0))

/-- The options in the text `s` behind a question mark; one without a name does not count. -/
def options? (s : List Char) : Option (List (String × String)) :=
  ((s.splitOn '&').filter fun o => !(o.isEmpty || o.head? == some '=')).mapM fun option => do
    let (name, value) := option.span (· ≠ '=')
    return (← part? name, ← part? (value.drop 1))

/-- What `path` stands for with some options; `none` if an option has a value that it cannot
have. -/
def withOptions (path : String) : (target : Target) → List (String × String) → Option Target
  | target, [] => if path.isEmpty ∨ path = ":memory:" then some .memory else some target
  | _, ("mode", mode) :: rest =>
    match mode with
    | "memory" => withOptions path .memory rest
    | "rwc" => withOptions path (.file path true) rest
    | "rw" => withOptions path (.file path false) rest
    | "ro" => withOptions path (.file path false) rest
    | _ => none
  | target, ("cache", cache) :: rest =>
    if cache = "shared" ∨ cache = "private" then withOptions path target rest else none
  | target, ("vfs", system) :: rest =>
    if ["unix", "unix-none", "unix-dotfile", "unix-excl"].contains system then
      withOptions path target rest
    else none
  | target, _ :: rest => withOptions path target rest

/-- The path, the options and so on of a resource without its authority, if that is a local one. -/
def local? : List Char → Option (List Char)
  | '/' :: '/' :: rest =>
    let (authority, path) := rest.span (· ≠ '/')
    if authority.isEmpty ∨ authority = "localhost".toList then some path else none
  | rest => some rest

/-- What a `name` stands for, if it is well formed; without `file:` it is a path and nothing
else. -/
def target? (name : String) : Option Target :=
  if name.startsWith "file:" then do
    let resource ← local? (name.toList.drop "file:".length)
    let (path, options) := (resource.takeWhile (· ≠ '#')).span (· ≠ '?')
    let path ← part? path
    withOptions path (.file path true) (← options? (options.drop 1))
  else some (.file name true)

end StakeLedger.DatabaseName
