/-! # Punycode

* `Punycode.encode`: a label of a domain name in ASCII, as its ASCII characters and the differences
  between the code points of the others.
-/

set_option autoImplicit false

namespace CivicForum.Punycode

/-- The digit of a number below 36: letters, then decimal digits. -/
def digit (n : Nat) : Char :=
  if n < 26 then Char.ofNat (0x61 + n) else Char.ofNat (0x30 + (n - 26))

/-- The bias after a difference, from the difference and the number of characters so far. -/
def shrink : Nat → Nat → Nat → Nat
  | 0, k, delta => k + 36 * delta / (delta + 38)
  | fuel + 1, k, delta =>
    if 455 < delta then shrink fuel (k + 36) (delta / 35) else k + 36 * delta / (delta + 38)

def adapt (delta count : Nat) (first : Bool) : Nat :=
  let delta := if first then delta / 700 else delta / 2
  shrink 64 0 (delta + delta / count)

/-- A difference in digits of variable base. -/
def writeDelta : Nat → Nat → Nat → Nat → List Char
  | 0, _, _, _ => []
  | fuel + 1, k, bias, q =>
    let t := if k ≤ bias then 1 else if bias + 26 ≤ k then 26 else k - bias
    if q < t then [digit q]
    else digit (t + (q - t) % (36 - t)) :: writeDelta fuel (k + 36) bias ((q - t) / (36 - t))

/-- Passes over the label once for a code point; each character below it adds to the difference. -/
def pass (n : Nat) : List Nat → Nat → Nat → Nat → Nat → List Char × Nat × Nat × Nat
  | [], delta, bias, count, _ => ([], delta, bias, count)
  | c :: cs, delta, bias, count, basic =>
    if c < n then pass n cs (delta + 1) bias count basic
    else if c = n then
      let digits := writeDelta 64 36 bias delta
      let (more, rest) := pass n cs 0 (adapt delta (count + 1) (count = basic)) (count + 1) basic
      (digits ++ more, rest)
    else pass n cs delta bias count basic

/-- The code points from the least one on, each in one pass over the label. -/
def passes : Nat → List Nat → Nat → Nat → Nat → Nat → Nat → List Char
  | 0, _, _, _, _, _, _ => []
  | fuel + 1, label, n, delta, bias, count, basic =>
    if label.length ≤ count then []
    else
      let m := (label.filter (n ≤ ·)).foldl Nat.min 0x110000
      let delta := delta + (m - n) * (count + 1)
      let (out, delta, bias, count) := pass m label delta bias count basic
      out ++ passes fuel label (m + 1) (delta + 1) bias count basic

/-- A label in ASCII, without the mark in front that says so. -/
def encode (label : List Char) : List Char :=
  let basic := label.filter fun c => c.toNat < 0x80
  let front := if basic = [] then [] else basic ++ ['-']
  front ++ passes (label.length + 1) (label.map Char.toNat) 0x80 0 72 basic.length basic.length

end CivicForum.Punycode
