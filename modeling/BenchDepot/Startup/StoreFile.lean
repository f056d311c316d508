import BenchDepot.Settings.Basic
import BenchDepot.Startup.Files
import BenchDepot.Startup.Location

/-!
# Opening a store

Directories above the path of a store are made first.  Then its file is opened, and made if it is
missing.  The path of the file is taken by its parts: `..` takes back the part before it, whether
or not that is there, and a slash at the end says nothing.

A file that is no store is refused; so is a time to wait for locks that is too long for the store,
but then the file is there already.  Beside the file stands a journal while it is written, so that
there must be room for a longer name and a longer path.

* `openStore` — whether a store can be opened, and the files after that.
-/

namespace BenchDepot.Startup

namespace StoreFile

/-- What a file that holds a store starts with. -/
def mark : String := "SQLite format 3\x00"

/-- Whether a file can be opened as a store: it is empty, or holds one. -/
def isStore (content : String) : Bool :=
  content.isEmpty || content.startsWith mark

/-- What stands behind the name of a file in the name of its journal. -/
def journalSuffix : String := "-journal"

/-- The longest path that a journal can have, from the root on, in bytes. -/
def longestPath : Nat := 512

/-- Whether a place has room for a longer name. -/
def hasJournal (place : List String) : Bool :=
  (place.getLast?).any fun name =>
    decide (name.utf8ByteSize + journalSuffix.utf8ByteSize ≤ Files.longestName)

/-- The length of the path to a place from the root on, in bytes, where the path of the directory
that the program runs in is known. -/
def pathSize (directory : String) (place : List String) : Nat :=
  let parts := place.filter (· != Files.root)
  let below := parts.foldl (fun size part => size + 1 + part.utf8ByteSize) 0
  if place.head? = some Files.root then below else directory.utf8ByteSize + below

/-- The place that one more part of a path leads to.  Nothing may stand below a file, and names in
a directory must not be too long. -/
def enter? (files : Files) (place : List String) (part : String) : Option (List String) :=
  if part = "" ∨ part = "." then some place
  else if part = Files.above then some (Files.up place)
  else
    match files.kind? place with
    | some .directory => if Files.isName part then some (place ++ [part]) else none
    | some (.file _) => none
    | none => some (place ++ [part])

/-- The place that a path leads to. -/
def place? (files : Files) (path : String) : Option (List String) :=
  let (start, parts) := Files.parts path
  parts.foldlM (enter? files) start

/-- Whether there is a directory right above a place. -/
def hasParent (files : Files) (place : List String) : Bool :=
  files.kind? place.dropLast == some .directory

/-- Whether the store at a place can be opened, and the files after that. -/
def openAt (files : Files) (place : List String) (mayMake mayWrite : Bool) : Bool × Files :=
  match files.kind? place with
  | some .directory => (false, files)
  | some (.file content) =>
    if isStore content && mayWrite && hasJournal place then
      (true, if content.isEmpty then files.put place (.file mark) else files)
    else
      (false, files)
  | none =>
    if mayMake && hasParent files place then
      if mayWrite && hasJournal place then (true, files.put place (.file mark))
      else (false, files.put place (.file ""))
    else
      (false, files)

/-- Whether the store in the file at a path can be opened, and the files after that. -/
def openPath (files : Files) (directory path : String) (mayMake mayWrite : Bool) : Bool × Files :=
  match place? files path with
  | none => (false, files)
  | some place =>
    if pathSize directory place + journalSuffix.utf8ByteSize ≤ longestPath then
      openAt files place mayMake mayWrite
    else
      (false, files)

end StoreFile

/-- The longest time to wait for locks, in seconds: its milliseconds must fit 32 bits. -/
def longestBusyTimeout : Nat := 2147483

/-- Whether a store can be opened, and the files after that. -/
def openStore (files : Files) (directory : String) (settings : StoreSettings) : Bool × Files :=
  match files.makeDirectories? settings.path with
  | none => (false, files)
  | some files =>
    let inTime := decide (settings.busyTimeout.toNat ≤ longestBusyTimeout)
    match Location.ofPath? settings.path with
    | none => (false, files)
    | some .passing => (inTime, files)
    | some (.file path mayMake mayWrite) =>
      match StoreFile.openPath files directory path mayMake mayWrite with
      | (isOpen, files) => (isOpen && inTime, files)

end BenchDepot.Startup
