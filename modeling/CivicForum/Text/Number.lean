/-! # Numbers as text

* `Text.writeNat`, `Text.writeInt`: decimal digits, a minus before a negative number.
* `Text.readNat?`: a non-empty run of decimal digits.
* `Text.readWord?`: a signed 64-bit number with an optional sign, as identifiers stand in paths.
* `Text.padded`: digits with leading zeros up to a width.
* `Text.isWord`: the range of signed 64-bit numbers.
-/

set_option autoImplicit false

namespace CivicForum.Text

/-! ## Signed 64-bit range -/

def wordMin : Int := -9223372036854775808
def wordMax : Int := 9223372036854775807

/-- The number fits in a signed 64-bit word. -/
def isWord (n : Int) : Bool := wordMin ≤ n && n ≤ wordMax

/-! ## Digits -/

def isDigit (c : Char) : Bool := '0' ≤ c && c ≤ '9'

/-- The value of a decimal digit. -/
def digitValue (c : Char) : Nat := c.toNat - '0'.toNat

/-- The digit for a number below ten. -/
def digit (n : Nat) : Char := Char.ofNat ('0'.toNat + n % 10)

def hexDigit (n : Nat) : Char :=
  if n < 10 then Char.ofNat ('0'.toNat + n) else Char.ofNat ('a'.toNat + (n - 10))

/-- The value of a hexadecimal digit in either case. -/
def hexValue? (c : Char) : Option Nat :=
  if '0' ≤ c && c ≤ '9' then some (c.toNat - '0'.toNat)
  else if 'a' ≤ c && c ≤ 'f' then some (c.toNat - 'a'.toNat + 10)
  else if 'A' ≤ c && c ≤ 'F' then some (c.toNat - 'A'.toNat + 10)
  else none

/-- The number that a list of digits writes in base ten. -/
def ofDigits (ds : List Char) : Nat :=
  ds.foldl (fun acc c => acc * 10 + digitValue c) 0

/-! ## Writing -/

/-- The decimal digits of a number, most significant first. -/
def writeNat (n : Nat) : List Char :=
  if n < 10 then [digit n] else writeNat (n / 10) ++ [digit n]
termination_by n

def writeInt : Int → List Char
  | .ofNat n => writeNat n
  | .negSucc n => '-' :: writeNat (n + 1)

/-- At least `width` digits. -/
def padded (width n : Nat) : List Char :=
  let ds := writeNat n
  List.replicate (width - ds.length) '0' ++ ds

/-- Lower-case hexadecimal digits, most significant first. -/
def writeHex (n : Nat) : List Char :=
  if n < 16 then [hexDigit n] else writeHex (n / 16) ++ [hexDigit (n % 16)]
termination_by n

/-! ## Reading -/

/-- A number written in one or more decimal digits. -/
def readNat? (cs : List Char) : Option Nat :=
  if cs ≠ [] ∧ cs.all isDigit then some (ofDigits cs) else none

/-- A signed 64-bit number: an optional sign, then one or more digits. -/
def readWord? (cs : List Char) : Option Int :=
  let n? : Option Int :=
    match cs with
    | '-' :: ds => (readNat? ds).map fun n => -(n : Int)
    | '+' :: ds => (readNat? ds).map fun n => (n : Int)
    | ds => (readNat? ds).map fun n => (n : Int)
  n?.filter isWord

end CivicForum.Text
