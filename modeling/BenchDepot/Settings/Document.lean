import BenchDepot.Settings.Format
import BenchDepot.Toml.Value

/-!
# Settings from documents

Settings are read from a table: that of a TOML document, with that of the environment laid over
it.  Where both have a table under a name, the tables are laid over each other too; anything else
is replaced.

A section may also be an array of its settings in their order; what stands behind the last one is
not looked at.  The store's section is stricter, because its members are set aside until its kind
is known: nothing may stand behind the last one, and a single character is no text there.  Its kind
may be given by its number.

* `Toml.Value.over` — one value laid over another;
* `Settings.ofTable?` — the settings of a table.
-/

namespace BenchDepot

namespace Toml

/-- The members of a value: those of a table, and none of anything else. -/
def Value.members : Value → Table
  | .table members => members
  | _ => []

namespace Table

/-- A table with another value for a name, at its place or at the end. -/
def set (table : Table) (name : String) (value : Value) : Table :=
  if table.any fun m => m.1 == name then
    table.map fun m => if m.1 == name then (name, value) else m
  else
    table ++ [(name, value)]

end Table

mutual

/-- A value laid over another one. -/
def Value.over (base : Value) : Value → Value
  | .table members => .table (Table.over base.members members)
  | .text s => .text s
  | .character c => .character c
  | .integer i => .integer i
  | .natural n => .natural n
  | .real => .real
  | .bool b => .bool b
  | .moment => .moment
  | .array items => .array items

/-- Members laid over a table, one after the other. -/
def Table.over (base : Table) : Table → Table
  | [] => base
  | (name, value) :: rest =>
    let laid := (base.get? name).elim (Value.over (.table []) value) fun old => old.over value
    Table.over (base.set name laid) rest

end

mutual

/-- A value as the settings see it.  They have no use for a number that is no integer, and see a
date or a time as a table in which they know no member. -/
def Value.toJson : Value → Json.Value
  | .text s => Json.Value.ofString s
  | .character c => Json.Value.ofString (String.singleton c)
  | .integer i => Json.Value.ofInt i
  | .natural n => Json.Value.ofInt n
  | .real => .null
  | .bool b => .bool b
  | .moment => .object []
  | .array items => .array (itemsToJson items)
  | .table members => .object (membersToJson members)

/-- Some values as the settings see them. -/
def itemsToJson : List Value → List Json.Value
  | [] => []
  | v :: rest => v.toJson :: itemsToJson rest

/-- Some members as the settings see them. -/
def membersToJson : List (String × Value) → List (List Json.Piece × Json.Value)
  | [] => []
  | (name, v) :: rest => (Json.Piece.ofString name, v.toJson) :: membersToJson rest

end

end Toml

/-- A section from the value under its name, if there is one: from a table, or from an array of
which only as many items count as the section has settings. -/
def Json.Layout.ofValue? {σ : Type} (layout : Json.Layout σ) : Option Toml.Value → Option σ
  | none => some layout.default
  | some (.array items) =>
    layout.read (.array (Toml.itemsToJson (items.take layout.fields.length)))
  | some v => layout.read v.toJson

namespace StoreSettings

/-- Whether a value names the kind of store there is, or is its number. -/
def isKind : Toml.Value → Bool
  | .text s => s == tag
  | .natural n => n == 0
  | _ => false

/-- A value that was set aside: a single character is no text any more. -/
def setAside : Toml.Value → Toml.Value
  | .character _ => .real
  | v => v

/-- The store's section from the value under its name, if there is one. -/
def ofValue? : Option Toml.Value → Option StoreSettings
  | none => some layout.default
  | some (.table members) =>
    if (Toml.Table.get? members tagName).any isKind then
      let aside := members.map fun (m : String × Toml.Value) => (m.1, setAside m.2)
      layout.read (.object (Toml.membersToJson aside))
    else
      none
  | some (.array (kind :: items)) =>
    if isKind kind then layout.read (.array (Toml.itemsToJson (items.map setAside))) else none
  | some _ => none

end StoreSettings

/-- The settings of a table. -/
def Settings.ofTable? (table : Toml.Table) : Option Settings :=
  match ServerSettings.layout.ofValue? (table.get? "server"),
      StoreSettings.ofValue? (table.get? "metadata"),
      CacheSettings.layout.ofValue? (table.get? "cache"),
      RefreshSettings.layout.ofValue? (table.get? "refresh"),
      OriginSettings.layout.ofValue? (table.get? "origins"),
      MaintenanceSettings.layout.ofValue? (table.get? "maintenance") with
  | some server, some store, some cache, some refresh, some origins, some maintenance =>
    some ⟨server, store, cache, refresh, origins, maintenance⟩
  | _, _, _, _, _, _ => none

end BenchDepot
