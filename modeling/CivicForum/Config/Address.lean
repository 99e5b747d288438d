import CivicForum.Text.Number

/-! # Addresses to listen on

* `Address`: an IPv4 or IPv6 address with a port.
* `Address.parse?`, `Address.write`: addresses as text.
-/

set_option autoImplicit false

namespace CivicForum

/-- An address to listen on. -/
inductive Address where
  | v4 (octets : List Nat) (port : Nat)
  /-- Eight groups of sixteen bits; the scope is 0 when none is given. -/
  | v6 (groups : List Nat) (scope port : Nat)
  deriving Repr, DecidableEq

namespace Address

open Text

/-! ## Reading -/

/-- A decimal number up to a limit, at the front of a text. -/
def readNumber (limit : Nat) (cs : List Char) : Option (Nat × List Char) :=
  let ds := cs.takeWhile isDigit
  if ds ≠ [] ∧ ofDigits ds ≤ limit then some (ofDigits ds, cs.drop ds.length) else none

/-- A number up to 255 in at most three digits, without zeros in front. -/
def readOctet (cs : List Char) : Option (Nat × List Char) :=
  let ds := (cs.take 3).takeWhile isDigit
  if ds = [] ∨ ds.length > 1 ∧ ds.head? = some '0' ∨ 255 < ofDigits ds then none
  else some (ofDigits ds, cs.drop ds.length)

/-- Four octets, divided by points. -/
def readV4 (cs : List Char) : Option (List Nat × List Char) := do
  let (a, cs) ← readOctet cs
  let '.' :: cs := cs | none
  let (b, cs) ← readOctet cs
  let '.' :: cs := cs | none
  let (c, cs) ← readOctet cs
  let '.' :: cs := cs | none
  let (d, cs) ← readOctet cs
  return ([a, b, c, d], cs)

/-- Up to four hexadecimal digits. -/
def readGroup (cs : List Char) : Option (Nat × List Char) :=
  let ds := (cs.take 4).takeWhile fun c => (hexValue? c).isSome
  if ds = [] then none
  else some (ds.foldl (fun acc c => acc * 16 + (hexValue? c).getD 0) 0, cs.drop ds.length)

/-- At most `limit` groups, divided by colons. The last two may be written as four octets; the
answer tells whether they are. -/
def readGroups : Nat → Bool → List Char → List Nat × Bool × List Char
  | 0, _, cs => ([], false, cs)
  | limit + 1, first, cs =>
    let start : Option (List Char) :=
      if first then some cs
      else
        match cs with
        | ':' :: rest => some rest
        | _ => none
    match start with
    | none => ([], false, cs)
    | some rest =>
      let octets := if limit = 0 then none else readV4 rest
      match octets with
      | some ([a, b, c, d], rest) => ([a * 256 + b, c * 256 + d], true, rest)
      | _ =>
        match readGroup rest with
        | some (g, rest) =>
          let (gs, hasOctets, rest) := readGroups limit false rest
          (g :: gs, hasOctets, rest)
        | none => ([], false, cs)

/-- Eight groups; two colons stand for as many zeros as are missing, at least one. -/
def readV6 (cs : List Char) : Option (List Nat × List Char) :=
  let (head, hasOctets, rest) := readGroups 8 true cs
  if head.length = 8 then some (head, rest)
  else if hasOctets then none
  else
    match rest with
    | ':' :: ':' :: rest =>
      let (tail, _, rest) := readGroups (7 - head.length) true rest
      some (head ++ List.replicate (8 - head.length - tail.length) 0 ++ tail, rest)
    | _ => none

/-- A colon and a port at the end of a text. -/
def readPort? (cs : List Char) : Option Nat :=
  match cs with
  | ':' :: rest =>
    match readNumber 65535 rest with
    | some (port, []) => some port
    | _ => none
  | _ => none

/-- The address that a text writes. -/
def parse? (s : String) : Option Address :=
  match s.toList with
  | '[' :: rest => do
    let (groups, rest) ← readV6 rest
    let (scope, rest) ←
      match rest with
      | '%' :: rest => readNumber 4294967295 rest
      | rest => some (0, rest)
    let ']' :: rest := rest | none
    return .v6 groups scope (← readPort? rest)
  | cs => do
    let (octets, rest) ← readV4 cs
    return .v4 octets (← readPort? rest)

/-! ## Writing -/

/-- The length of the run of zeros at the front of a list. -/
def zeroRun (gs : List Nat) : Nat := (gs.takeWhile (· = 0)).length

/-- Start and length of the longest run of zeros, the first of several. -/
def longestZeros (gs : List Nat) : Nat × Nat :=
  (List.range gs.length).foldl (fun best i =>
    let n := zeroRun (gs.drop i)
    if best.2 < n then (i, n) else best) (0, 0)

/-- Texts with a mark between them. -/
def joinWith (mark : Char) : List (List Char) → List Char
  | [] => []
  | [t] => t
  | t :: ts => t ++ mark :: joinWith mark ts

def writeV4 (octets : List Nat) : List Char := joinWith '.' (octets.map writeNat)

/-- Eight groups, the longest run of at least two zeros left out. -/
def writeGroups (groups : List Nat) : List Char :=
  let (start, size) := longestZeros groups
  if size ≤ 1 then joinWith ':' (groups.map writeHex)
  else
    joinWith ':' ((groups.take start).map writeHex) ++ [':', ':'] ++
      joinWith ':' ((groups.drop (start + size)).map writeHex)

/-- An IPv6 address; one that stands for an IPv4 address ends in its octets. -/
def writeV6 (groups : List Nat) : List Char :=
  match groups with
  | [0, 0, 0, 0, 0, 0xFFFF, a, b] =>
    [':', ':', 'f', 'f', 'f', 'f', ':'] ++ writeV4 [a / 256, a % 256, b / 256, b % 256]
  | _ => writeGroups groups

/-- The address as text. -/
def write : Address → String
  | .v4 octets port => String.ofList (writeV4 octets ++ ':' :: writeNat port)
  | .v6 groups scope port =>
    String.ofList ('[' :: writeV6 groups ++ (if scope = 0 then [] else '%' :: writeNat scope) ++
      ']' :: ':' :: writeNat port)

end Address

end CivicForum
