/-! # JSON values

* `Json`: a JSON value; a number keeps apart the whole numbers and the texts with a fraction or an
  exponent, because only the former are integers of the service.
* `Json.field?`: the value under a name of a record.
* `Json.sorted`: the same value with the names of every record in ascending order.
-/

set_option autoImplicit false

namespace CivicForum

/-- A JSON value. -/
inductive Json where
  | null
  | truth (b : Bool)
  | int (n : Int)
  /-- A number written with a fraction or an exponent, or as `-0`: never an integer. -/
  | decimal (text : String)
  | text (s : String)
  | list (items : List Json)
  | record (fields : List (String × Json))
  deriving Repr, Inhabited

namespace Json

/-! ## Access -/

/-- The value of the first field with this name; nothing when the value is no record. -/
def field? (v : Json) (name : String) : Option Json :=
  match v with
  | .record fields => fields.lookup name
  | _ => none

def int? : Json → Option Int
  | .int n => some n
  | _ => none

def text? : Json → Option String
  | .text s => some s
  | _ => none

def truth? : Json → Option Bool
  | .truth b => some b
  | _ => none

def list? : Json → Option (List Json)
  | .list items => some items
  | _ => none

/-- Absent values are written as `null`. -/
def ofOption {α : Type} (f : α → Json) : Option α → Json
  | none => .null
  | some a => f a

/-! ## Order of names -/

/-- Puts a field before the first one whose name is not smaller. -/
def insertField (name : String) (v : Json) : List (String × Json) → List (String × Json)
  | [] => [(name, v)]
  | (n, w) :: rest =>
    if n < name then (n, w) :: insertField name v rest else (name, v) :: (n, w) :: rest

mutual

/-- The same value with the names of each record in ascending order. -/
def sorted : Json → Json
  | .list items => .list (sortedItems items)
  | .record fields => .record (sortedFields fields)
  | .null => .null
  | .truth b => .truth b
  | .int n => .int n
  | .decimal t => .decimal t
  | .text s => .text s

def sortedItems : List Json → List Json
  | [] => []
  | v :: rest => v.sorted :: sortedItems rest

def sortedFields : List (String × Json) → List (String × Json)
  | [] => []
  | (name, v) :: rest => insertField name v.sorted (sortedFields rest)

end

end Json

end CivicForum
