/-!
# File Trees

A file tree holds directories, texts and databases. A path leads through the tree step by step, from
the root or from the directory a program works in. A step needs a directory to start from, even a
step that stays where it is; so a path through a file leads nowhere.
-/

namespace StakeLedger

/-- Where something stands in a file tree: the names on the way from the root, which is `[]`. -/
abbrev Place := List String

/-- What stands at a place of a file tree. -/
inductive FileEntry where
  | directory
  | text (contents : String)
  | database
  deriving DecidableEq, Repr

/-- A file tree with the directory a program works in. -/
structure FileTree where
  /-- What stands at which place, apart from the root. -/
  entries : List (Place × FileEntry)
  /-- The directory the program works in, from which paths lead that do not start with a slash. -/
  here : Place

/-- Where a path leads in a file tree. -/
inductive Destination where
  /-- To a place at which something stands. -/
  | found (place : Place)
  /-- To a place at which nothing stands, in a directory. -/
  | free (place : Place)
  /-- Nowhere, since a directory is missing on the way. -/
  | absent
  /-- Nowhere, since a file stands in the way or a name is too long. -/
  | blocked
  deriving DecidableEq, Repr

namespace FileTree

/-- The most bytes the name of a step may have. -/
def nameLimit : Nat := 255

/-- The least number of bytes that is too much for a path. -/
def pathLimit : Nat := 4096

/-- What stands at `place` in the tree `t`; at the root it is a directory. -/
def at? (t : FileTree) (place : Place) : Option FileEntry :=
  if place.isEmpty then some .directory else t.entries.lookup place

/-- The tree `t` with `entry` at `place`, whatever stood there before. -/
def put (t : FileTree) (place : Place) (entry : FileEntry) : FileTree :=
  { t with entries := (place, entry) :: t.entries.filter (·.1 ≠ place) }

/-- Whether a `step` leads nowhere else: it is empty or a single point. -/
def isStay (step : String) : Bool := step.isEmpty || step == "."

/-- Follows steps from `place`, at which something stands. -/
def follow (t : FileTree) (place : Place) : List String → Destination
  | [] => .found place
  | step :: rest =>
    if t.at? place ≠ some .directory then .blocked
    else if isStay step then t.follow place rest
    else if step = ".." then t.follow place.dropLast rest
    else if nameLimit < step.utf8ByteSize then .blocked
    else
      let next := place ++ [step]
      if (t.at? next).isSome then t.follow next rest
      -- slashes may follow the name of something that is yet to be made
      else if rest.all String.isEmpty then .free next
      else .absent

/-- Where `steps` lead that start at the root or in the directory `t.here`. -/
def walk (t : FileTree) (steps : List String) : Destination :=
  match steps with
  | "" :: _ :: _ => t.follow [] steps
  | _ => t.follow t.here steps

/-- Where `path` leads in the tree `t`. -/
def destination (t : FileTree) (path : String) : Destination :=
  if path.isEmpty then .absent
  else if pathLimit ≤ path.utf8ByteSize || path.contains (Char.ofNat 0) then .blocked
  else t.walk (path.splitOn "/")

/-- Whether `path` leads to something in the tree `t`. -/
def isFound (t : FileTree) (path : String) : Bool :=
  match t.destination path with
  | .found _ => true
  | _ => false

/-- The text of the file that `path` leads to, if it leads to one. -/
def text? (t : FileTree) (path : String) : Option String :=
  match t.destination path with
  | .found place =>
    match t.at? place with
    | some (.text contents) => some contents
    | _ => none
  | _ => none

/-- The steps of `path` without those that stay, except for one at the front. -/
def plainSteps (path : String) : List String :=
  match path.splitOn "/" with
  | [] => []
  | first :: rest => first :: rest.filter fun step => !isStay step

/-- The paths that lead to the directories around `path`, innermost first, as steps. -/
def ancestors (path : String) : List (List String) :=
  let steps := plainSteps path
  let longer := (List.range steps.length).map fun n => steps.take n
  -- a path from the root starts there and not in front of it
  (longer.filter fun s => s ≠ [] ∧ s ≠ [""]).reverse

/-- The tree `t` with a directory where `steps` lead, if there is one or can be one. -/
def make? (t : FileTree) (steps : List String) : Option FileTree :=
  match t.walk steps with
  | .found place => if t.at? place = some .directory then some t else none
  | .free place => some (t.put place .directory)
  | _ => none

/-- The tree `t` with a directory where the first steps lead, if there can be one; the other steps
lead to the directories around it, innermost first, which are made as far as they are missing. -/
def makeAll? (t : FileTree) : List (List String) → Option FileTree
  | [] => some t
  | steps :: around =>
    match t.walk steps with
    | .absent => (t.makeAll? around).bind fun t => t.make? steps
    | _ => t.make? steps

/-- The tree `t` with a directory at `path` and all directories on the way, if they can be made. -/
def makeDirectory? (t : FileTree) (path : String) : Option FileTree :=
  if path.isEmpty then some t
  else if pathLimit ≤ path.utf8ByteSize || path.contains (Char.ofNat 0) then none
  else t.makeAll? (path.splitOn "/" :: ancestors path)

/-- The path of the directory around `path`, which is what stands in front of the last slash. -/
def parent (path : String) : String := "/".intercalate (path.splitOn "/").dropLast

/-- The tree `t` with a text at `path` and the directories around it. -/
def putText (t : FileTree) (path contents : String) : FileTree :=
  let t := (t.makeDirectory? (parent path)).getD t
  match t.destination path with
  | .found place | .free place => t.put place (.text contents)
  | _ => t

/-- The tree in which a program that works in the directory `here` finds only that and the empty
device. -/
def empty (here : Place) : FileTree where
  entries := [(["dev"], .directory), (["dev", "null"], .text "")] ++
    (List.range here.length).map fun n => (here.take (n + 1), .directory)
  here

/-- The tree in which a program that works in the directory `here` finds `texts` at their paths. -/
def ofTexts (here : Place) (texts : List (String × String)) : FileTree :=
  texts.foldl (fun t (path, contents) => t.putText path contents) (empty here)

end FileTree

end StakeLedger
