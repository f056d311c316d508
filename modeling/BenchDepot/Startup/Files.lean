import BenchDepot.Text.Cut

/-!
# Files and directories

The files that a start can see are data: which directories there are, and which files with which
content.  A path is followed part by part from the directory the program runs in, or from the root;
a part that is missing or is a file leads nowhere.

* `Files.has` — whether a path leads somewhere;
* `Files.content?` — the content of a file;
* `Files.makeDirectories?` — the directories above a path, made where they are missing.
-/

namespace BenchDepot.Startup

/-- What stands at a place. -/
inductive FileKind where
  | directory
  | file (content : String)
deriving DecidableEq

/-- The files and directories by their places.  A place is told by the parts of its path, the root
being a part of its own. -/
structure Files where
  entries : List (List String × FileKind)

namespace Files

/-- An empty directory. -/
def none : Files := ⟨[]⟩

/-- The part that stands for the root. -/
def root : String := "/"

/-- The part that leads to the directory above. -/
def above : String := ".."

/-- The longest name that an entry of a directory can have, in bytes. -/
def longestName : Nat := 255

/-- Whether a text can be the name of an entry of a directory. -/
def isName (part : String) : Bool :=
  decide (part.utf8ByteSize ≤ longestName) && !part.contains (Char.ofNat 0)

/-- What stands at a place.  Where the program runs is a directory, and so are the root and those
above it. -/
def kind? (files : Files) (place : List String) : Option FileKind :=
  if place.all fun part => part == above || part == root then
    some .directory
  else
    (files.entries.find? fun e => e.1 == place).map (·.2)

/-- The files with another one at a place. -/
def put (files : Files) (place : List String) (kind : FileKind) : Files :=
  ⟨(place, kind) :: files.entries.filter fun e => e.1 != place⟩

/-- The place above a place. -/
def up (place : List String) : List String :=
  match place.getLast? with
  | some part => if part = above then place ++ [above] else if part = root then place
      else place.dropLast
  | .none => [above]

/-- The directory that a part of a path leads to from a directory, made if it is missing and may
be made. -/
def enter? (make : Bool) (state : Files × List String) (part : String) :
    Option (Files × List String) :=
  let (files, place) := state
  if part = "" ∨ part = "." then some state
  else if part = above then some (files, up place)
  else
    let next := place ++ [part]
    match files.kind? next with
    | some .directory => some (files, next)
    | some (.file _) => .none
    | .none => if make && isName part then some (files.put next .directory, next) else .none

/-- The directory that some parts of a path lead to from a place. -/
def walk? (make : Bool) (files : Files) (start : List String) (parts : List String) :
    Option (Files × List String) :=
  parts.foldlM (enter? make) (files, start)

/-- Where a path starts, and its parts. -/
def parts (path : String) : List String × List String :=
  let parts := (Text.pieces '/' path.toList).map String.ofList
  (if path.startsWith "/" then [root] else [], parts)

/-- Whether a part of a path names no entry of a directory. -/
def isStep (part : String) : Bool :=
  part == "" || part == "." || part == above

/-- The place that a path leads to, if its directories exist. -/
def place? (files : Files) (path : String) : Option (List String) :=
  let (start, parts) := parts path
  match parts.getLast? with
  | .none => .none
  | some last =>
    if isStep last then (files.walk? false start parts).map (·.2)
    else (files.walk? false start parts.dropLast).map fun r => r.2 ++ [last]

/-- What a path leads to. -/
def find? (files : Files) (path : String) : Option FileKind :=
  if path.isEmpty then .none else (files.place? path).bind files.kind?

/-- Whether a path leads somewhere. -/
def has (files : Files) (path : String) : Bool :=
  (files.find? path).isSome

/-- The content of the file that a path leads to. -/
def content? (files : Files) (path : String) : Option String :=
  match files.find? path with
  | some (.file content) => some content
  | _ => .none

/-- The parts of a path without the steps it ends with that lead nowhere else. -/
def trimmed (parts : List String) : List String :=
  (parts.reverse.dropWhile fun part => part == "" || part == ".").reverse

/-- The files with the directories above a path, if they can be made. -/
def makeDirectories? (files : Files) (path : String) : Option Files :=
  let (start, parts) := parts path
  (files.walk? true start (trimmed parts).dropLast).map (·.1)

end Files

end BenchDepot.Startup
