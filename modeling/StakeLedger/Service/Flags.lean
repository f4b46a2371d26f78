import StakeLedger.Text.Terminal

/-!
# Flags

The program takes two options, each with a path: in a word of its own, or attached to the option
with or without an equals sign. An option that is not given takes its value from the environment,
and else has a default.

Words are taken from left to right. An occurrence of an option is checked when the next known option
or the end is reached: first that it has a value, then that it is the only one, then that the value
is not empty. A word that belongs nowhere stops at once.

Words and values are shown without their control sequences, since the output is no terminal. A
sequence does not reach past the place where the style of the output changes.
-/

namespace StakeLedger

/-- An option of the program, whose value is a path. -/
inductive Flag where
  | params
  | config
  deriving DecidableEq, Repr

namespace Flag

/-- Both options, among which `ofName?` and `ofLetter?` look. -/
def all : List Flag := [params, config]

/-- The long name of an option, which stands behind two dashes. -/
def name : Flag → String
  | params => "params"
  | config => "config"

/-- The short name of an option, which stands behind one dash. -/
def letter : Flag → Char
  | params => 'p'
  | config => 'c'

/-- The option with its value, as messages show it. -/
def usage : Flag → String
  | params => "--params <PARAMS>"
  | config => "--config <CONFIG>"

/-- The environment variable that gives the value of an option that is not given. -/
def environmentName : Flag → String
  | params => "STAKING_INDEXER_PARAMS"
  | config => "STAKING_INDEXER_CONFIG"

/-- The value of an option that neither the arguments nor the environment give. -/
def defaultValue : Flag → String
  | params => "params.toml"
  | config => "config.toml"

/-- The option with the long name `name`, if there is one. -/
def ofName? (name : List Char) : Option Flag := all.find? fun f => f.name.toList = name

/-- The option with the short name `letter`, if there is one. -/
def ofLetter? (letter : Char) : Option Flag := all.find? (·.letter = letter)

end Flag

/-- Why the program does not start from its arguments: a fault in them, or a question. -/
inductive FlagsStop where
  /-- The option `flag` has no value or an empty one. -/
  | missingValue (flag : Flag)
  /-- The option `flag` is given twice. -/
  | repeated (flag : Flag)
  /-- The word `word` belongs nowhere. -/
  | unexpected (word : String)
  /-- The text `value` is attached to the option `word`, which has none. -/
  | unneededValue (value word : String)
  | help
  | version
  deriving DecidableEq, Repr

/-- The values of the two options, the paths of the two files. -/
structure Flags where
  params : String
  config : String
  deriving DecidableEq, Repr

namespace Flags

/-- The column in which `helpText` describes the options, as blanks. -/
def helpIndent : String := "                         "

/-- What the help text says of the value of the option `flag`. -/
def helpOnValue (environment : String → Option String) (flag : Flag) : String :=
  let value := (environment flag.environmentName).getD ""
  -- further lines of a value stand below the description
  let lines := value.replace "\n" ("\n" ++ helpIndent)
  s!"[env: {flag.environmentName}={lines}] [default: {flag.defaultValue}]"

/-- The help text, which also shows the values in the `environment`. -/
def helpText (environment : String → Option String) : String :=
  -- the style changes at the next option
  let shown (flag : Flag) := Terminal.plain (helpOnValue environment flag ++ "\n  ")
  "Tracks the lifecycle of BTC staking delegations\n\n" ++
  "Usage: staking-indexer [OPTIONS]\n\n" ++
  "Options:\n" ++
  "  -p, --params <PARAMS>  The file containing the versioned staking params " ++ shown .params ++
  "-c, --config <CONFIG>  The file containing the configuration for the indexer " ++
    shown .config ++
  "-h, --help             Print help\n" ++
  "  -V, --version          Print version\n"

/-- The name and version of the program, which it prints when it is asked for the version. -/
def versionText : String := "staking-indexer 0.1.0\n"

end Flags

/-- The message of a stop, which is empty for `help` and `version`. -/
def FlagsStop.message : FlagsStop → String
  | missingValue flag => s!"error: a value is required for '{flag.usage}' but none was supplied"
  | repeated flag => s!"error: the argument '{flag.usage}' cannot be used multiple times"
  | unexpected word => s!"error: unexpected argument '{Terminal.plain word}' found"
  | unneededValue value word =>
    s!"error: unexpected value '{Terminal.plain value}' for '{word}' found; no more were expected"
  | help => ""
  | version => ""

namespace Flags

/-- Options that were checked, and the occurrence that is not checked yet. -/
structure Progress where
  /-- The values of the options that were checked. -/
  given : List (Flag × String) := []
  /-- The last occurrence, without its value if that has not come yet. -/
  pending : Option (Flag × Option String) := none

namespace Progress

/-- Checks the last occurrence, `p.pending`, and puts it to those that were checked. -/
def settle (p : Progress) : Except FlagsStop Progress :=
  match p.pending with
  | none => .ok p
  | some (flag, none) => .error (.missingValue flag)
  | some (flag, some value) =>
    -- of an option that is repeated and empty, the repetition is reported
    if p.given.any (·.1 = flag) then .error (.repeated flag)
    else if value.isEmpty then .error (.missingValue flag)
    else .ok { given := p.given ++ [(flag, value)] }

/-- Takes an occurrence of the option `flag`, with the value `attached` to it, if any. -/
def occur (p : Progress) (flag : Flag) (attached : Option String) : Except FlagsStop Progress := do
  let p ← p.settle
  let p := { p with pending := some (flag, attached) }
  if attached.isSome then p.settle else return p

/-- Stops for help or version, after the last occurrence was checked. -/
def stop (p : Progress) (reason : FlagsStop) : Except FlagsStop Progress := do
  let _ ← p.settle
  throw reason

/-- Takes the `word` behind two dashes, which starts with a long name. -/
def long (p : Progress) (word : List Char) : Except FlagsStop Progress :=
  let (name, tail) := word.span (· ≠ '=')
  let attached := match tail with
    | '=' :: value => some (String.ofList value)
    | _ => none
  let shown := "--" ++ String.ofList name
  match Flag.ofName? name with
  | some flag => p.occur flag attached
  | none =>
    if name = "help".toList ∨ name = "version".toList then
      match attached with
      | some value => .error (.unneededValue value shown)
      | none => p.stop (if name = "help".toList then .help else .version)
    else .error (.unexpected shown)

/-- Takes a word with a short name, which is the character `letter` in front of `rest`. -/
def short (p : Progress) (letter : Char) (rest : List Char) : Except FlagsStop Progress :=
  match Flag.ofLetter? letter with
  | some flag =>
    match rest with
    | [] => p.occur flag none
    | '=' :: value => p.occur flag (some (String.ofList value))
    | value => p.occur flag (some (String.ofList value))
  | none =>
    if letter = 'h' then p.stop .help
    else if letter = 'V' then p.stop .version
    else .error (.unexpected (String.ofList ['-', letter]))

/-- Takes a `word` without a name, which is the value of the last occurrence if that has none. -/
def plain (p : Progress) (word : String) : Except FlagsStop Progress :=
  match p.pending with
  | some (flag, none) => .ok { p with pending := some (flag, some word) }
  | _ => .error (.unexpected word)

/-- Takes the words in turn. Behind a word of two dashes nothing is expected. -/
def words (p : Progress) : List String → Except FlagsStop Progress
  | [] => p.settle
  | word :: rest => do
    match word.toList with
    | ['-', '-'] =>
      -- the word behind is judged before an option that still lacks its value
      match rest with
      | [] => p.settle
      | next :: _ => throw (.unexpected next)
    | '-' :: '-' :: name => (← p.long name).words rest
    | '-' :: letter :: tail => (← p.short letter tail).words rest
    | _ => (← p.plain word).words rest

end Progress

/-- The value of the option `flag`: as `given`, or from the `environment`, or the default. -/
def valueOf (given : List (Flag × String)) (environment : String → Option String) (flag : Flag) :
    Except FlagsStop String :=
  match given.lookup flag with
  | some value => .ok value
  | none =>
    match environment flag.environmentName with
    | some value => if value.isEmpty then .error (.missingValue flag) else .ok value
    | none => .ok flag.defaultValue

/-- The options from the `arguments` of the program and its `environment`. -/
def parse (arguments : List String) (environment : String → Option String) :
    Except FlagsStop Flags := do
  let p ← Progress.words {} arguments
  return {
    params := ← valueOf p.given environment .params
    config := ← valueOf p.given environment .config }

end Flags

end StakeLedger
