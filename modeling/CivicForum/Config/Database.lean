import CivicForum.Config.Url

/-! # Where the database is

* `Database`: a database in memory or in a file.
* `Database.parse?`: the database that a connection string names.
-/

set_option autoImplicit false

namespace CivicForum

/-- A database, as a connection string names it. -/
inductive Database where
  | memory
  /-- A file; one that is only read is not created. -/
  | file (path : String) (readOnly : Bool)
  deriving Repr, DecidableEq

namespace Database

/-- A text without any number of copies of a mark at its front. -/
def dropMarks (mark : List Char) : Nat → List Char → List Char
  | 0, cs => cs
  | fuel + 1, cs =>
    if cs.take mark.length = mark then dropMarks mark fuel (cs.drop mark.length) else cs

/-- A parameter of a connection string applied to the database. -/
def withParameter (d : Database) (name value : String) : Option Database :=
  match name, value with
  | "mode", "ro" =>
    match d with
    | .memory => some .memory
    | .file path _ => some (.file path true)
  | "mode", "rw" => some d
  | "mode", "rwc" => some d
  | "mode", "memory" => some .memory
  | "cache", "private" => some d
  | "cache", "shared" => some d
  | "immutable", "true" => some d
  | "immutable", "1" => some d
  | "immutable", "false" => some d
  | "immutable", "0" => some d
  | "vfs", "unix" => some d
  | _, _ => none

/-- The name and the value of a parameter, in which a plus stands for a blank. -/
def readParameter? (cs : List Char) : Option (String × String) := do
  let plain (part : List Char) : Option String :=
    (Url.unescape? (part.map fun c => if c = '+' then ' ' else c)).map String.ofList
  let (name, value) := Url.splitMark '=' cs
  return (← plain name, ← plain (value.getD []))

/-- The database that a connection string names. -/
def parse? (s : String) : Option Database := do
  let cs := dropMarks ['s', 'q', 'l', 'i', 't', 'e', ':', '/', '/'] s.length s.toList
  let cs := dropMarks ['s', 'q', 'l', 'i', 't', 'e', ':'] s.length cs
  let (place, parameters) := Url.splitMark '?' cs
  let start ←
    if String.ofList place = ":memory:" then some .memory
    else (Url.unescape? place).map fun path => .file (String.ofList path) false
  let parts := (Url.splitOn (· = '&') (parameters.getD [])).filter (· ≠ [])
  parts.foldlM (fun d part => do
    let (name, value) ← readParameter? part
    d.withParameter name value) start

/-- The directory of a file, up to and with its last slash. -/
def directory (path : String) : String :=
  String.ofList ((path.toList.reverse.dropWhile (· ≠ '/')).reverse)

end Database

end CivicForum
