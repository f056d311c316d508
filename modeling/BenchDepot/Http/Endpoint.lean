import BenchDepot.Text.Cut

/-!
# Endpoints

An endpoint is an internet address and the number of a service there: `127.0.0.1:1234` or
`[::1]:1234`.  Host names are no addresses.  In the second form one run of zero groups may be left
out, the last two groups may be written as an address of the first form, and the address may have
a zone.

An endpoint is written in one way only: without leading zeros, and with the first of the longest
runs of at least two zero groups left out.
-/

namespace BenchDepot.Http

/-- An internet address: four octets, or eight groups of 16 bits and a zone. -/
inductive Host where
  | four (octets : Vector UInt8 4)
  | six (groups : Vector UInt16 8) (zone : UInt32)
deriving DecidableEq

/-- An internet address and the number of a service there. -/
structure Endpoint where
  host : Host
  number : UInt16
deriving DecidableEq

namespace Endpoint

/-! ## Reading -/

/-- The number of some decimal digits, of which there is at least one, below a bound. -/
def decimal? (bound : Nat) (cs : List Char) : Option Nat :=
  if !cs.isEmpty && cs.all Char.isDigit then
    let n := Nat.ofDigitChars 10 cs 0
    if n < bound then some n else none
  else
    none

/-- An octet: a decimal number without leading zeros. -/
def octet? (cs : List Char) : Option UInt8 :=
  if cs.head? = some '0' ∧ cs.length ≠ 1 then none
  else (decimal? UInt8.size cs).map UInt8.ofNat

/-- A list as a vector, if it has the right length. -/
def sized? {α : Type} (n : Nat) (xs : List α) : Option (Vector α n) :=
  if h : xs.length = n then some ⟨xs.toArray, by simp [h]⟩ else none

/-- Four octets with points between them. -/
def octets? (cs : List Char) : Option (Vector UInt8 4) :=
  ((Text.pieces '.' cs).mapM octet?).bind (sized? 4)

/-- The value of a hexadecimal digit of either case. -/
def hexDigit? (c : Char) : Option Nat :=
  if c.isDigit then some (c.toNat - '0'.toNat)
  else if 'a' ≤ c ∧ c ≤ 'f' then some (c.toNat - 'a'.toNat + 10)
  else if 'A' ≤ c ∧ c ≤ 'F' then some (c.toNat - 'A'.toNat + 10)
  else none

/-- A group: one to four hexadecimal digits. -/
def group? (cs : List Char) : Option UInt16 :=
  if 1 ≤ cs.length ∧ cs.length ≤ 4 then
    (cs.mapM hexDigit?).map fun digits =>
      UInt16.ofNat (digits.foldl (fun n d => 16 * n + d) 0)
  else
    none

/-- The group of two octets. -/
def groupOf (high low : UInt8) : UInt16 :=
  UInt16.ofNat (256 * high.toNat + low.toNat)

/-- The two groups of four octets. -/
def joined (octets : Vector UInt8 4) : List UInt16 :=
  [groupOf octets[0] octets[1], groupOf octets[2] octets[3]]

/-- The groups of some pieces; the last piece may be an address of four octets. -/
def groups? : List (List Char) → Option (List UInt16)
  | [] => some []
  | [last] => ((octets? last).map joined).or ((group? last).map ([·]))
  | piece :: rest =>
    match group? piece, groups? rest with
    | some g, some more => some (g :: more)
    | _, _ => none

/-- The pieces of a part of an address; an empty part has none. -/
def colonPieces (cs : List Char) : List (List Char) :=
  if cs.isEmpty then [] else Text.pieces ':' cs

/-- The parts of a text around the first two colons side by side. -/
def aroundGap? : List Char → Option (List Char × List Char)
  | ':' :: ':' :: rest => some ([], rest)
  | c :: rest => (aroundGap? rest).map fun parts => (c :: parts.1, parts.2)
  | [] => none

/-- Eight groups, of which a run of zeros may be left out. -/
def eight? (cs : List Char) : Option (Vector UInt16 8) :=
  match aroundGap? cs with
  | none => (groups? (Text.pieces ':' cs)).bind (sized? 8)
  | some (before, after) =>
    match (colonPieces before).mapM group?, groups? (colonPieces after) with
    | some head, some tail =>
      let given := head.length + tail.length
      if given ≤ 7 then sized? 8 (head ++ List.replicate (8 - given) 0 ++ tail) else none
    | _, _ => none

/-- The zone behind an address, if there is one. -/
def zone? : List Char → Option UInt32
  | [] => some 0
  | _ :: digits => (decimal? UInt32.size digits).map UInt32.ofNat

/-- The address that stands in front of a number. -/
def host? (cs : List Char) : Option Host :=
  match cs, cs.getLast? with
  | '[' :: rest, some ']' =>
    let body := rest.dropLast
    match eight? (body.takeWhile (· != '%')), zone? (body.dropWhile (· != '%')) with
    | some groups, some zone => some (.six groups zone)
    | _, _ => none
  | _, _ => (octets? cs).map .four

/-- The endpoint that a text spells. -/
def parse? (text : String) : Option Endpoint :=
  match Text.cutLast ':' text.toList with
  | none => none
  | some (address, number) =>
    match host? address, decimal? UInt16.size number with
    | some host, some n => some ⟨host, UInt16.ofNat n⟩
    | _, _ => none

/-! ## Writing -/

/-- Four octets with points between them. -/
def octetsText (octets : Vector UInt8 4) : List Char :=
  Text.join ['.'] (octets.toList.map fun o => Nat.toDigits 10 o.toNat)

/-- Groups with colons between them. -/
def groupsText (groups : List UInt16) : List Char :=
  Text.join [':'] (groups.map fun g => Nat.toDigits 16 g.toNat)

/-- How many zeros some groups start with. -/
def zeros (groups : List UInt16) : Nat :=
  (groups.takeWhile (· == 0)).length

/-- Where the first of the longest runs of zeros starts, and its length. -/
def longestRun (groups : List UInt16) : Nat × Nat :=
  (List.range groups.length).foldl
    (fun best start =>
      let length := zeros (groups.drop start)
      if best.2 < length then (start, length) else best)
    (0, 0)

/-- The two octets of a group. -/
def octetsOf (group : UInt16) : List UInt8 :=
  [(group / 256).toUInt8, (group % 256).toUInt8]

/-- The text of eight groups.  An address of four octets that is written as groups shows them. -/
def eightText (groups : List UInt16) : List Char :=
  if groups.take 6 = [0, 0, 0, 0, 0, 0xffff] then
    "::ffff:".toList
      ++ Text.join ['.'] (((groups.drop 6).flatMap octetsOf).map fun o => Nat.toDigits 10 o.toNat)
  else
    let (start, length) := longestRun groups
    if 1 < length then
      groupsText (groups.take start) ++ [':', ':'] ++ groupsText (groups.drop (start + length))
    else
      groupsText groups

/-- The text of an endpoint. -/
def text (endpoint : Endpoint) : String :=
  let address :=
    match endpoint.host with
    | .four octets => octetsText octets
    | .six groups zone =>
      let zoneText := if zone = 0 then [] else '%' :: Nat.toDigits 10 zone.toNat
      '[' :: eightText groups.toList ++ zoneText ++ [']']
  String.ofList (address ++ ':' :: Nat.toDigits 10 endpoint.number.toNat)

end Endpoint

end BenchDepot.Http
