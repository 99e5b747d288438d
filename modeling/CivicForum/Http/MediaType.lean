/-! # Media types

* `Http.isJsonType`: whether a media type is JSON, or a type whose suffix says so.
* `Http.readSubtype`, `Http.readParameters`: the grammar of media types.
-/

set_option autoImplicit false

namespace CivicForum.Http

/-- The characters of names in header fields. -/
def isToken (c : Char) : Bool :=
  c.isAlphanum || c ∈ ['!', '#', '$', '%', '&', '\'', '*', '+', '-', '.', '^', '_', '`', '|', '~']

/-- A character of a header field: visible ASCII, a blank or a tab. -/
def isFieldChar (c : Char) : Bool := c = '\t' || 0x20 ≤ c.toNat && c.toNat < 0x7F

/-- The characters that may stand between quotes. -/
def isQuotable (c : Char) : Bool := 0x20 ≤ c.toNat && c.toNat ≠ 0x7F

/-- A subtype is the name up to the first blank or semicolon; the rest starts after that mark. -/
def readSubtype (cs : List Char) : Option (List Char × List Char) :=
  let name := cs.takeWhile isToken
  match name, cs.dropWhile isToken with
  | [], _ => none
  | _, [] => some (name, [])
  | _, c :: rest => if c = ';' ∨ c = ' ' then some (name, rest) else none

/-- What follows a quoted value, up to the next parameter. -/
def readGap : List Char → Option (List Char)
  | [] => some []
  | ';' :: rest => some rest
  | ' ' :: rest => readGap rest
  | _ => none

/-- The value of a parameter, and the text of the parameters after it. -/
def readValue : List Char → Option (List Char)
  | '"' :: rest =>
    match rest.dropWhile fun c => c ≠ '"' && isQuotable c with
    | '"' :: after => readGap after
    | _ => none
  | cs =>
    match cs.takeWhile isToken, cs.dropWhile isToken with
    | _, [] => some []
    | _ :: _, ';' :: rest => some rest
    | _, _ => none

/-- The parameters of a media type are well formed: names and values, divided by semicolons. -/
def readParameters : Nat → List Char → Bool
  | 0, _ => false
  | _ + 1, [] => true
  | fuel + 1, ' ' :: rest => readParameters fuel rest
  | fuel + 1, cs =>
    match cs.takeWhile isToken, cs.dropWhile isToken with
    | _ :: _, '=' :: rest =>
      match readValue rest with
      | some rest => readParameters fuel rest
      | none => false
    | _, _ => false

/-- What stands before the last plus of a subtype and after it; a plus in front is no divider. -/
def splitSuffix (subtype : List Char) : List Char × Option (List Char) :=
  let back := subtype.reverse
  match back.dropWhile (· ≠ '+') with
  | _ :: before =>
    if before.isEmpty then (subtype, none)
    else (before.reverse, some (back.takeWhile (· ≠ '+')).reverse)
  | [] => (subtype, none)

/-- The media type is `application/json`, or an application type with the suffix `json`. Case makes
no difference. -/
def isJsonType (s : String) : Bool :=
  let cs := s.toList.map Char.toLower
  if cs.all isFieldChar then
    match cs.takeWhile isToken, cs.dropWhile isToken with
    | main, '/' :: rest =>
      match readSubtype rest with
      | some (subtype, parameters) =>
        let (name, suffix) := splitSuffix subtype
        readParameters (parameters.length + 1) parameters &&
          String.ofList main = "application" &&
          (String.ofList name = "json" || suffix = some ['j', 's', 'o', 'n'])
      | none => false
    | _, _ => false
  else false

end CivicForum.Http
