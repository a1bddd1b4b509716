import TableDiscovery.Text.Percent
import TableDiscovery.Text.Replace

/-!
# Literal network addresses

The text forms of addresses: four decimal octets, and eight groups of hexadecimal digits of which
one run of zero groups may be left out and the last two may be written as octets.

* `Url.isIPv4`, `Url.isIPv6`.
-/

namespace TableDiscovery.Url

open Text

/-- An octet: up to three digits, no leading zero, at most 255. -/
def isOctet (cs : List Char) : Bool :=
  !cs.isEmpty && cs.all Char.isDigit && cs.length ≤ 3 && (cs == ['0'] || cs.head? != some '0') &&
    cs.foldl (fun n c => 10 * n + (c.toNat - '0'.toNat)) 0 ≤ 255

/-- Four octets between points. -/
def isIPv4 (cs : List Char) : Bool :=
  let octets := pieces '.' cs
  octets.length == 4 && octets.all isOctet

/-- A group: one to four hexadecimal digits. -/
def isGroup (cs : List Char) : Bool :=
  !cs.isEmpty && cs.length ≤ 4 && cs.all fun c => (hexValue? c).isSome

/-- The groups of an address; octets at the end count as two. -/
def groups? (cs : List Char) : Option (List (List Char)) :=
  let parts := pieces ':' cs
  let last := parts.getLast?.getD []
  if parts.length < 3 then none
  else if last.contains '.' then
    if isIPv4 last then some (parts.dropLast ++ [['0'], ['0']]) else none
  else some parts

/-- The groups on one side of a run of zeros; the run may stand at an end of the address. -/
def besideRun (parts : List (List Char)) : List (List Char) := if parts == [[]] then [] else parts

/-- Whether groups, of which an inner one may be empty for a run of zeros, make an address. -/
def isGroupList (parts : List (List Char)) : Bool :=
  match (List.range (parts.length - 2)).filter fun i => (parts.getD (i + 1) []).isEmpty with
  | [] => parts.length == 8 && parts.all isGroup
  | [i] =>
    let high := besideRun (parts.take (i + 1))
    let low := besideRun (parts.drop (i + 2))
    high.length + low.length < 8 && (high ++ low).all isGroup
  | _ => false

/-- What stands before an optional zone; a zone is not empty and holds no other mark. -/
def beforeZone? (cs : List Char) : Option (List Char) :=
  match cut? '%' cs with
  | none => some cs
  | some (address, zone) => if zone.isEmpty || zone.contains '%' then none else some address

/-- An address with an optional zone after `%`. -/
def isIPv6 (cs : List Char) : Bool :=
  !cs.contains '/' &&
    match (beforeZone? cs).bind groups? with
    | some parts => parts.length ≤ 9 && isGroupList parts
    | none => false

end TableDiscovery.Url
