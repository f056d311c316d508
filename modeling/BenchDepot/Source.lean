import BenchDepot.Settings.Basic
import BenchDepot.Text.Cut

/-!
# Sources of artifacts

Where the content of an artifact comes from: the aggregate is rebuilt from the stored results, the
two tables of device names have an address of their own, and every other key is appended to a base
address, which loses the slashes it ends with because a key starts with one.
-/

namespace BenchDepot

/-- Where the content of an artifact comes from. -/
inductive Source where
  | aggregate
  | origin (url : String)
deriving DecidableEq

/-- The address of a source, if it has one. -/
def Source.url? : Source → Option String
  | .aggregate => none
  | .origin url => some url

namespace OriginSettings

/-- The base address without the slashes it ends with. -/
def base (s : OriginSettings) : List Char :=
  Text.dropTrailing '/' s.fallbackBase.toList

/-- The source of a key. -/
def source (s : OriginSettings) (key : Key) : Source :=
  if key = Key.aggregate then .aggregate
  else if key = Key.pciIds then .origin s.pciIds
  else if key = Key.usbIds then .origin s.usbIds
  else .origin (String.ofList (s.base ++ key.text.toList))

end OriginSettings

end BenchDepot
