import BenchDepot.Toml.Value

/-!
# Tables under construction

A document names a value by the path of its key, and a table by the path in its header.  A table
may come to be in three ways: it has a header, it stands above one in a header's path, or it
stands above a value in a key's path.  How it came to be decides what may still go into it: a
header may complete a table of the second kind only, and a key's path may go through tables of
the last two kinds, but put a value into one of the last kind only.  Tables in an array are
complete once the next one starts.

* `Node.put?` — a value under a key;
* `Node.openAt?` — the table of a header.
-/

namespace BenchDepot.Toml

/-- How a table came to be. -/
inductive Origin where
  | header
  | aboveHeader
  | aboveValue
deriving DecidableEq

/-- What a name stands for in a table under construction. -/
inductive Node where
  | value (v : Value)
  | table (origin : Origin) (members : List (String × Node))
  /-- An array of tables, the last one first. -/
  | tables (elements : List (List (String × Node)))

namespace Node

/-- The members of a table under construction. -/
abbrev Members := List (String × Node)

/-- What a name stands for. -/
def find? (members : Members) (name : String) : Option Node :=
  (members.find? fun m => m.1 == name).map (·.2)

/-- The members with another thing for a name, at its place or at the end. -/
def set (members : Members) (name : String) (node : Node) : Members :=
  if members.any fun m => m.1 == name then
    members.map fun m => if m.1 == name then (name, node) else m
  else
    members ++ [(name, node)]

/-- The members with a value put under a key.  A value goes into the table where the key starts,
or into one that keys alone made. -/
def put? (value : Value) : (accepts : Bool) → List String → Members → Option Members
  | _, [], _ => none
  | accepts, [name], members =>
    if accepts && (find? members name).isNone then some (set members name (.value value))
    else none
  | _, name :: rest, members =>
    match find? members name with
    | none => (put? value true rest []).map fun inner => set members name (.table .aboveValue inner)
    | some (.table origin inner) =>
      if origin = .header then
        none
      else
        (put? value (origin = .aboveValue) rest inner).map fun inner =>
          set members name (.table origin inner)
    | some (.tables (last :: earlier)) =>
      (put? value false rest last).map fun last => set members name (.tables (last :: earlier))
    | some _ => none

/-- The members with some values put under their keys. -/
def putAll? (members : Members) (pairs : List (List String × Value)) : Option Members :=
  pairs.foldlM (fun members pair => put? pair.2 true pair.1 members) members

/-- The members with the values of a section put into the table of its header: a new element of an
array of tables, or a table that has no header yet. -/
def openAt? (pairs : List (List String × Value)) (isElement : Bool) :
    List String → Members → Option Members
  | [], _ => none
  | [name], members =>
    match find? members name, isElement with
    | none, true =>
      (putAll? [] pairs).map fun inner => set members name (.tables [inner])
    | some (.tables elements), true =>
      (putAll? [] pairs).map fun inner => set members name (.tables (inner :: elements))
    | none, false =>
      (putAll? [] pairs).map fun inner => set members name (.table .header inner)
    | some (.table .aboveHeader inner), false =>
      (putAll? inner pairs).map fun inner => set members name (.table .header inner)
    | _, _ => none
  | name :: rest, members =>
    match find? members name with
    | none =>
      (openAt? pairs isElement rest []).map fun inner =>
        set members name (.table .aboveHeader inner)
    | some (.table origin inner) =>
      (openAt? pairs isElement rest inner).map fun inner =>
        set members name (.table origin inner)
    | some (.tables (last :: earlier)) =>
      (openAt? pairs isElement rest last).map fun last =>
        set members name (.tables (last :: earlier))
    | some _ => none

mutual

/-- The value that a node has become. -/
def toValue : Node → Value
  | .value v => v
  | .table _ members => .table (membersValue members)
  | .tables elements => .array (elementsValue elements).reverse

/-- The members that some members have become. -/
def membersValue : Members → List (String × Value)
  | [] => []
  | (name, node) :: rest => (name, node.toValue) :: membersValue rest

/-- The values that some tables have become. -/
def elementsValue : List Members → List Value
  | [] => []
  | members :: rest => .table (membersValue members) :: elementsValue rest

end

end Node

/-- The table of some values under their keys. -/
def Value.ofPairs? (pairs : List (List String × Value)) : Option Value :=
  (Node.putAll? [] pairs).map fun members => .table (Node.membersValue members)

/-- A part of a document with the header it stands under. -/
structure Section where
  isElement : Bool
  path : List String
  pairs : List (List String × Value)

/-- The table of a document: the values that stand under no header, then the sections. -/
def Table.ofSections? (pairs : List (List String × Value)) (sections : List Section) :
    Option Table :=
  ((Node.putAll? [] pairs).bind fun members =>
    sections.foldlM (fun members s => Node.openAt? s.pairs s.isElement s.path members) members).map
      Node.membersValue

end BenchDepot.Toml
