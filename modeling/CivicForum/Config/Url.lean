import CivicForum.Config.Address
import CivicForum.Config.Punycode
import CivicForum.Text.Lowercase

/-! # URLs

* `Url`: the parts of an absolute URL.
* `Url.parse?`: the URL that a text writes.
* `Url.write`: a URL in its normal form.
-/

set_option autoImplicit false

namespace CivicForum

/-- What follows the scheme: an authority and a path, or a text without structure. -/
inductive Url.Rest where
  | hierarchical (user : List Char) (host : List Char) (port : Option Nat) (path : List Char)
  | rooted (path : List Char)
  | opaquePath (path : List Char)
  deriving Repr, DecidableEq

/-- An absolute URL, its parts in normal form. -/
structure Url where
  scheme : List Char
  rest : Url.Rest
  query : Option (List Char)
  fragment : Option (List Char)
  deriving Repr, DecidableEq

namespace Url

open Text

/-! ## Escaped characters -/

def hexUpper (n : Nat) : Char :=
  if n < 10 then Char.ofNat (0x30 + n) else Char.ofNat (0x41 + (n - 10))

/-- A character as its bytes, each a percent sign and two digits. -/
def percentChar (c : Char) : List Char :=
  (String.singleton c).toUTF8.toList.flatMap fun b =>
    ['%', hexUpper (b.toNat / 16), hexUpper (b.toNat % 16)]

/-- Controls and everything beyond ASCII. -/
def isControl (c : Char) : Bool := c.toNat < 0x20 || 0x7E < c.toNat

/-- Escapes the controls and the characters of a list. -/
def escape (special : List Char) (cs : List Char) : List Char :=
  cs.flatMap fun c => if isControl c || c ∈ special then percentChar c else [c]

def fragmentMarks : List Char := [' ', '"', '<', '>', '`']
def queryMarks : List Char := [' ', '"', '#', '<', '>']
def pathMarks : List Char := [' ', '"', '<', '>', '`', '#', '?', '\x7b', '\x7d']
def userMarks : List Char := pathMarks ++ ['/', ':', ';', '=', '@', '[', '\\', ']', '^', '|']

/-- The bytes that a text with percent signs stands for, as text. -/
def unescape? (cs : List Char) : Option (List Char) :=
  let rec bytes : List Char → List UInt8
    | [] => []
    | '%' :: a :: b :: rest =>
      match hexValue? a, hexValue? b with
      | some x, some y => (x * 16 + y).toUInt8 :: bytes rest
      | _, _ => (String.singleton '%').toUTF8.toList ++ bytes (a :: b :: rest)
    | c :: rest => (String.singleton c).toUTF8.toList ++ bytes rest
  if '%' ∈ cs then (String.fromUTF8? ⟨(bytes cs).toArray⟩).map String.toList else some cs

/-! ## Splitting -/

/-- The parts of a text between marks. -/
def splitOn (isMark : Char → Bool) : List Char → List (List Char)
  | [] => [[]]
  | c :: rest =>
    if isMark c then [] :: splitOn isMark rest
    else
      match splitOn isMark rest with
      | part :: parts => (c :: part) :: parts
      | [] => [[c]]

/-- What stands before the last mark of a text, and after it. -/
def splitLast? (mark : Char) (cs : List Char) : Option (List Char × List Char) :=
  match cs.reverse.dropWhile (· ≠ mark) with
  | _ :: before => some (before.reverse, (cs.reverse.takeWhile (· ≠ mark)).reverse)
  | [] => none

/-! ## Schemes -/

/-- A letter, then letters, digits, plus, dash and point, up to a colon. -/
def readScheme (cs : List Char) : Option (List Char × List Char) :=
  let name := cs.takeWhile (· ≠ ':')
  match name, cs.dropWhile (· ≠ ':') with
  | c :: more, ':' :: rest =>
    if c.isAlpha && more.all (fun d => d.isAlphanum || d = '+' || d = '-' || d = '.') then
      some (name.map Char.toLower, rest)
    else none
  | _, _ => none

/-- The port that a scheme implies, for the schemes whose hosts are domains. -/
def impliedPort? (scheme : List Char) : Option Nat :=
  match String.ofList scheme with
  | "http" => some 80
  | "https" => some 443
  | "ws" => some 80
  | "wss" => some 443
  | "ftp" => some 21
  | _ => none

/-! ## Hosts -/

/-- The characters that no host may hold. -/
def isForbidden (c : Char) : Bool :=
  c.toNat ≤ 0x20 || c.toNat = 0x7F ||
    c ∈ ['#', '/', ':', '<', '>', '?', '@', '[', '\\', ']', '^', '|', '%']

/-- A number in decimal, octal or hexadecimal, as a part of an IPv4 address. -/
def readPart? (cs : List Char) : Option Nat :=
  let digits (base : Nat) (ds : List Char) : Option Nat :=
    ds.foldl (fun acc c => do
      let n ← acc
      let d ← hexValue? c
      if d < base then some (n * base + d) else none) (some 0)
  match cs with
  | [] => none
  | '0' :: 'x' :: ds => digits 16 ds
  | '0' :: d :: ds => digits 8 (d :: ds)
  | ds => digits 10 ds

/-- The octets of a number of 32 bits. -/
def octetsOf (n : Nat) : List Nat := [n / 16777216 % 256, n / 65536 % 256, n / 256 % 256, n % 256]

/-- The octets of an IPv4 address in at most four parts; the last one fills what is left. -/
def ipv4? (parts : List (List Char)) : Option (List Nat) := do
  let numbers ← parts.mapM readPart?
  let last ← numbers.getLast?
  let front := numbers.dropLast
  if 4 < numbers.length ∨ front.any (255 < ·) ∨ Nat.pow 256 (5 - numbers.length) ≤ last then none
  else
    let high := (front.zipIdx.map fun (n, i) => n * Nat.pow 256 (3 - i)).foldr (· + ·) 0
    some (octetsOf (high + last))

/-- The host ends in a number, so that it has to be an IPv4 address. -/
def endsInNumber (parts : List (List Char)) : Bool :=
  match parts.getLast? with
  | some p => p ≠ [] && (p.all isDigit || ((readPart? p).isSome && p.take 2 = ['0', 'x']))
  | none => false

/-- A domain name: labels in lower case and in ASCII, or an IPv4 address. -/
def readDomain? (cs : List Char) : Option (List Char) := do
  let decoded ← unescape? cs
  let labels := (splitOn (· = '.') (lower decoded)).map fun label =>
    if label.all fun c => c.toNat < 0x80 then label
    else ['x', 'n', '-', '-'] ++ Punycode.encode label
  let domain := Address.joinWith '.' labels
  if domain = [] ∨ domain.any isForbidden then none
  let parts :=
    if labels.getLast? = some [] ∧ 1 < labels.length then labels.dropLast else labels
  if endsInNumber parts then (ipv4? parts).map Address.writeV4 else some domain

/-- A host: an IPv6 address between brackets, or a domain for the schemes that have domains. -/
def readHost? (hasDomain : Bool) (cs : List Char) : Option (List Char) :=
  match cs with
  | '[' :: rest =>
    match Address.readV6 rest with
    | some (groups, [']']) => some ('[' :: Address.writeGroups groups ++ [']'])
    | _ => none
  | _ =>
    if hasDomain then readDomain? cs
    else if cs.any fun c => isForbidden c && c ≠ '%' then none
    else some (escape [] cs)

/-- A host with an optional port; the port that the scheme implies is left out. -/
def readHostPort? (scheme : List Char) (cs : List Char) : Option (List Char × Option Nat) := do
  let (host, port) : List Char × List Char :=
    match cs with
    | '[' :: _ =>
      let host := cs.takeWhile (· ≠ ']')
      match cs.dropWhile (· ≠ ']') with
      | c :: rest => (host ++ [c], rest)
      | [] => (host, [])
    | _ => (cs.takeWhile (· ≠ ':'), cs.dropWhile (· ≠ ':'))
  let port ←
    match port with
    | [] => some none
    | ':' :: [] => some none
    | ':' :: ds => (readNat? ds).bind fun n => if n ≤ 65535 then some (some n) else none
    | _ => none
  let host ← readHost? (impliedPort? scheme).isSome host
  return (host, if port = impliedPort? scheme then none else port)

/-- A name and a password before a host. -/
def writeUser (cs : List Char) : List Char :=
  let name := escape userMarks (cs.takeWhile (· ≠ ':'))
  match cs.dropWhile (· ≠ ':') with
  | _ :: [] => if name = [] then [] else name ++ ['@']
  | _ :: password => name ++ ':' :: escape userMarks password ++ ['@']
  | [] => if name = [] then [] else name ++ ['@']

/-! ## Paths -/

/-- The part of a path is one point, which stands for the same place. -/
def isHere (part : List Char) : Bool :=
  let p := part.map Char.toLower
  p = ['.'] || p = ['%', '2', 'e']

/-- The part of a path is two points, which stand for the place above. -/
def isAbove (part : List Char) : Bool :=
  let p := part.map Char.toLower
  p = ['.', '.'] || p = ['.', '%', '2', 'e'] || p = ['%', '2', 'e', '.'] ||
    p = ['%', '2', 'e', '%', '2', 'e']

/-- The parts of a path, latest first, after one more part. -/
def walk (isLast : Bool) (above : List (List Char)) (part : List Char) : List (List Char) :=
  if isAbove part then if isLast then [] :: above.drop 1 else above.drop 1
  else if isHere part then if isLast then [] :: above else above
  else escape pathMarks part :: above

def walkAll : List (List Char) → List (List Char) → List (List Char)
  | above, [] => above
  | above, [part] => walk true above part
  | above, part :: parts => walkAll (walk false above part) parts

/-- A path from the root, without points. -/
def readPath (hasDomain : Bool) (cs : List Char) : List Char :=
  let isMark (c : Char) : Bool := c = '/' || hasDomain && c = '\\'
  let body :=
    match cs with
    | c :: rest => if isMark c then rest else cs
    | [] => []
  (walkAll [] (splitOn isMark body)).reverse.flatMap fun part => '/' :: part

/-! ## Whole URLs -/

/-- A text without controls and blanks at its ends, and without tabs and line breaks. -/
def clean (cs : List Char) : List Char :=
  let blank (c : Char) : Bool := c.toNat ≤ 0x20
  ((cs.dropWhile blank).reverse.dropWhile blank).reverse.filter fun c =>
    c ≠ '\t' && c ≠ '\n' && c ≠ '\r'

/-- What stands before a mark, and what stands after it if there is one. -/
def splitMark (mark : Char) (cs : List Char) : List Char × Option (List Char) :=
  match cs.dropWhile (· ≠ mark) with
  | _ :: rest => (cs.takeWhile (· ≠ mark), some rest)
  | [] => (cs, none)

/-- An authority and a path. -/
def readAuthority? (scheme : List Char) (cs : List Char) : Option Rest := do
  let hasDomain := (impliedPort? scheme).isSome
  let isEnd (c : Char) : Bool := c = '/' || hasDomain && c = '\\'
  let authority := cs.takeWhile fun c => !isEnd c
  let path := cs.dropWhile fun c => !isEnd c
  let (user, host) :=
    match splitLast? '@' authority with
    | some (user, host) => (writeUser user, host)
    | none => ([], authority)
  if host = [] ∧ hasDomain then none
  let (host, port) ← if host = [] then some ([], none) else readHostPort? scheme host
  let path := if path = [] ∧ !hasDomain then [] else readPath hasDomain path
  return .hierarchical user host port path

/-- What follows the scheme of a URL, without query and fragment. -/
def readRest? (scheme : List Char) (cs : List Char) : Option Rest :=
  if (impliedPort? scheme).isSome then
    readAuthority? scheme (cs.dropWhile fun c => c = '/' || c = '\\')
  else
    match cs with
    | '/' :: '/' :: rest => readAuthority? scheme rest
    | '/' :: rest =>
      let path := readPath false ('/' :: rest)
      if scheme = ['f', 'i', 'l', 'e'] then some (.hierarchical [] [] none path)
      else some (.rooted path)
    | cs =>
      if scheme = ['f', 'i', 'l', 'e'] then some (.hierarchical [] [] none (readPath false cs))
      else some (.opaquePath (escape [] cs))

/-- The URL that a text writes. -/
def parse? (s : String) : Option Url := do
  let (scheme, cs) ← readScheme (clean s.toList)
  let (cs, fragment) := splitMark '#' cs
  let (cs, query) := splitMark '?' cs
  let rest ← readRest? scheme cs
  let marks := if (impliedPort? scheme).isSome then '\'' :: queryMarks else queryMarks
  return {
    scheme := scheme
    rest := rest
    query := query.map (escape marks)
    fragment := fragment.map (escape fragmentMarks) }

/-- The URL in its normal form. -/
def write (u : Url) : String :=
  let rest :=
    match u.rest with
    | .hierarchical user host port path =>
      let port := match port with
        | some n => ':' :: writeNat n
        | none => []
      '/' :: '/' :: user ++ host ++ port ++ path
    | .rooted path => path
    | .opaquePath path => path
  let query := match u.query with
    | some q => '?' :: q
    | none => []
  let fragment := match u.fragment with
    | some f => '#' :: f
    | none => []
  String.ofList (u.scheme ++ ':' :: rest ++ query ++ fragment)

end Url

end CivicForum
