import CivicForum.Json.Reader

/-! # Reading JSON of a known form

A `Format` says what a value has to look like, both when it is read straight from text and when it
is already a value. Read from text, the first fault in reading order decides between `malformed`
and `misfit`. What comes out is canonical: a record has its fields in declaration order, absent
ones filled in, and a name from a fixed list is a plain string.

* `Format.int`, `Format.natural`, `Format.text`, `Format.truth`, `Format.any`, `Format.choice`,
  `Format.listOf`, `Format.optional`, `Format.record`: the forms.
* `Format.readBody`: a whole text of this form.
-/

set_option autoImplicit false

namespace CivicForum.Json

/-- A form of JSON values, with its canonical reading from text and from a value. -/
structure Format where
  read : Scan Json
  fit : Json → Option Json

namespace Format

/-! ## Values of another form -/

/-- The fault of a value that has the wrong form: a scalar is read to its end first, a list or a
record is refused at its opening bracket. -/
def wrongForm (cs : List Char) : Fault :=
  let judge {α : Type} (r : Except Fault α) : Fault :=
    match r with
    | .ok _ => .misfit
    | .error e => e
  match cs with
  | 'n' :: rest => judge (expect ['u', 'l', 'l'] rest)
  | 't' :: rest => judge (expect ['r', 'u', 'e'] rest)
  | 'f' :: rest => judge (expect ['a', 'l', 's', 'e'] rest)
  | '"' :: rest => judge (readString false rest)
  | '[' :: _ => .misfit
  | '\x7b' :: _ => .misfit
  | cs => judge (readNumber false cs)

/-! ## Scalars -/

/-- The text starts a number. -/
def startsNumber : List Char → Bool
  | c :: _ => c = '-' || Text.isDigit c
  | [] => false

/-- A whole number with a condition on its size. -/
def intWhere (ok : Int → Bool) : Format where
  read cs :=
    let cs := skipSpaces cs
    if startsNumber cs then do
      let (v, rest) ← readNumber false cs
      match v with
      | .int n => if ok n then return (v, rest) else throw .misfit
      | _ => throw .misfit
    else .error (wrongForm cs)
  fit v :=
    match v with
    | .int n => if ok n then some v else none
    | _ => none

/-- A signed 64-bit number. -/
def int : Format := intWhere Text.isWord

/-- An unsigned 64-bit number. -/
def natural : Format := intWhere fun n => 0 ≤ n && n < 18446744073709551616

def text : Format where
  read cs :=
    match skipSpaces cs with
    | '"' :: rest => do
      let (s, rest) ← readString false rest
      return (.text (String.ofList s), rest)
    | cs => .error (wrongForm cs)
  fit v :=
    match v with
    | .text _ => some v
    | _ => none

def truth : Format where
  read cs :=
    match skipSpaces cs with
    | 't' :: rest => do return (.truth true, ← expect ['r', 'u', 'e'] rest)
    | 'f' :: rest => do return (.truth false, ← expect ['a', 'l', 's', 'e'] rest)
    | cs => .error (wrongForm cs)
  fit v :=
    match v with
    | .truth _ => some v
    | _ => none

/-- A value of any form. -/
def any : Format where
  read cs := readValue false (2 * cs.length + 2) cs
  fit := some

/-! ## Names from a fixed list -/

/-- A name from the list, or nothing of this form. -/
def named (names : List String) (s : String) : Except Fault Json :=
  if s ∈ names then .ok (.text s) else .error .misfit

/-- The `null` that follows a name written as the single field of a record. -/
def readNull (cs : List Char) : Except Fault (List Char) :=
  match skipSpaces cs with
  | 'n' :: rest => expect ['u', 'l', 'l'] rest
  | cs => .error (wrongForm cs)

/-- A string literal at the front of a text. -/
def readName (cs : List Char) : Except Fault (String × List Char) :=
  match skipSpaces cs with
  | '"' :: rest => do
    let (s, rest) ← readString false rest
    return (String.ofList s, rest)
  | cs => .error (wrongForm cs)

/-- One of the names: a string, or a record whose single field has that name and the value
`null`. -/
def choice (names : List String) : Format where
  read cs :=
    match skipSpaces cs with
    | '"' :: rest => do
      let (s, rest) ← readString false rest
      return (← named names (String.ofList s), rest)
    | '\x7b' :: rest => do
      let (s, rest) ← readName rest
      let v ← named names s
      match skipSpaces rest with
      | ':' :: rest => do
        let rest ← readNull rest
        match skipSpaces rest with
        | '\x7d' :: rest => return (v, rest)
        | _ => throw .malformed
      | _ => throw .malformed
    | _ => .error .malformed
  fit v :=
    match v with
    | .text s => if s ∈ names then some v else none
    | .record [(s, .null)] => if s ∈ names then some (.text s) else none
    | _ => none

/-! ## Lists and options -/

/-- The elements of a list after the first, up to its closing bracket. -/
def readMore (read : Scan Json) : Nat → Scan (List Json)
  | 0, _ => .error .malformed
  | fuel + 1, cs =>
    match skipSpaces cs with
    | ']' :: rest => .ok ([], rest)
    | ',' :: rest =>
      match skipSpaces rest with
      | [] => .error .malformed
      | ']' :: _ => .error .malformed
      | rest => do
        let (v, rest) ← read rest
        let (items, rest) ← readMore read fuel rest
        return (v :: items, rest)
    | _ => .error .malformed

/-- A list whose elements all have one form. -/
def listOf (f : Format) : Format where
  read cs :=
    match skipSpaces cs with
    | '[' :: rest =>
      match skipSpaces rest with
      | [] => .error .malformed
      | ']' :: rest => .ok (.list [], rest)
      | rest => do
        let (v, rest) ← f.read rest
        let (items, rest) ← readMore f.read (rest.length + 1) rest
        return (.list (v :: items), rest)
    | cs => .error (wrongForm cs)
  fit v :=
    match v with
    | .list items => (items.mapM f.fit).map .list
    | _ => none

/-- A value of the form, or `null`. -/
def optional (f : Format) : Format where
  read cs :=
    match skipSpaces cs with
    | 'n' :: rest => do return (.null, ← expect ['u', 'l', 'l'] rest)
    | cs => f.read cs
  fit v :=
    match v with
    | .null => some .null
    | v => f.fit v

/-! ## Records -/

/-- A field of a record: its name, its form, and the value it has when it is absent. `inList` says
whether the value may also be left out at the end of a record written as a list. -/
structure Field where
  name : String
  format : Format
  absent : Option Json := none
  inList : Bool := true

/-- The fields in declaration order, absent ones filled in. -/
def assemble (fields : List Field) (found : List (String × Json)) : Option (List (String × Json)) :=
  fields.mapM fun f =>
    ((found.lookup f.name).orElse fun _ => f.absent).map fun v => (f.name, v)

/-- The values of the fields that a list leaves out at its end. -/
def omitted (fields : List Field) : Option (List (String × Json)) :=
  fields.mapM fun f => if f.inList then f.absent.map fun v => (f.name, v) else none

/-- The next field of a record, up to the closing brace; `found` are the fields so far. A field is
refused when its name is met again; the value of an unknown one is skipped. -/
def readNamed (fields : List Field) :
    Nat → Bool → List (String × Json) → Scan (List (String × Json))
  | 0, _, _, _ => .error .malformed
  | fuel + 1, first, found, cs =>
    match skipSpaces cs with
    | [] => .error .malformed
    | '\x7d' :: rest =>
      match assemble fields found with
      | some fs => .ok (fs, rest)
      | none => .error .misfit
    | c :: rest => do
      let start ←
        if first then pure (c :: rest)
        else if c = ',' then pure (skipSpaces rest)
        else throw .malformed
      match start with
      | '"' :: rest => do
        let (s, rest) ← readString false rest
        let name := String.ofList s
        match fields.find? (·.name = name) with
        | some f => do
          if (found.lookup name).isSome then throw .misfit
          match skipSpaces rest with
          | ':' :: rest => do
            let (v, rest) ← f.format.read rest
            readNamed fields fuel false ((name, v) :: found) rest
          | _ => throw .malformed
        | none =>
          match skipSpaces rest with
          | ':' :: rest => do
            let (_, rest) ← readValue true (2 * rest.length + 2) rest
            readNamed fields fuel false found rest
          | _ => throw .malformed
      | _ => throw .malformed

/-- The values of a record written as a list, in declaration order, up to the closing bracket. -/
def readListed : List Field → Bool → Scan (List (String × Json))
  | [], _, cs =>
    match skipSpaces cs with
    | ']' :: rest => .ok ([], rest)
    | _ => .error .malformed
  | f :: fields, first, cs =>
    match skipSpaces cs with
    | [] => .error .malformed
    | ']' :: rest =>
      match omitted (f :: fields) with
      | some fs => .ok (fs, rest)
      | none => .error .misfit
    | c :: rest => do
      let start ←
        if first then pure (c :: rest)
        else if c = ',' then
          match skipSpaces rest with
          | [] => throw .malformed
          | ']' :: _ => throw .malformed
          | rest => pure rest
        else throw .malformed
      let (v, rest) ← f.format.read start
      let (fs, rest) ← readListed fields false rest
      return ((f.name, v) :: fs, rest)

/-- The values of a record given as a list. -/
def fitListed : List Field → List Json → Option (List (String × Json))
  | fields, [] => omitted fields
  | [], _ :: _ => none
  | f :: fields, v :: vs => do
    let v ← f.format.fit v
    let fs ← fitListed fields vs
    return (f.name, v) :: fs

/-- The values of a record given by names. -/
def fitNamed (fields : List Field) (given : List (String × Json)) : Option (List (String × Json)) :=
  fields.mapM fun f =>
    match given.lookup f.name with
    | some v => (f.format.fit v).map fun v => (f.name, v)
    | none => f.absent.map fun v => (f.name, v)

/-- A record: a JSON record with at least these fields, or the list of their values in declaration
order. -/
def record (fields : List Field) : Format where
  read cs :=
    match skipSpaces cs with
    | '[' :: rest => do
      let (fs, rest) ← readListed fields true rest
      return (.record fs, rest)
    | '\x7b' :: rest => do
      let (fs, rest) ← readNamed fields (rest.length + 1) true [] rest
      return (.record fs, rest)
    | cs => .error (wrongForm cs)
  fit v :=
    match v with
    | .list items => (fitListed fields items).map .record
    | .record given => (fitNamed fields given).map .record
    | _ => none

/-! ## Whole texts -/

/-- A text that is one value of this form, blanks around it allowed. -/
def readBody (f : Format) (s : String) : Except Fault Json := do
  let (v, rest) ← f.read s.toList
  if skipSpaces rest = [] then return v else throw .malformed

end Format

end CivicForum.Json
