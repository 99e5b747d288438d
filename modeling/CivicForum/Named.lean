import CivicForum.Json.Format

/-! # Types whose values have fixed names

* `Named`: a finite type whose values are written by name in JSON and in the database.
* `Named.ofWire?`: the value with a written name.
* `Named.format`: the JSON form of such a value.
-/

set_option autoImplicit false

namespace CivicForum

/-- A finite type whose values have a written name and a title. -/
class Named (α : Type) where
  /-- Every value, in declaration order. -/
  all : List α
  /-- The name in JSON and in the database. -/
  wire : α → String
  /-- The name in messages. -/
  title : α → String

namespace Named

variable {α : Type} [Named α]

/-- The value with this written name. -/
def ofWire? (s : String) : Option α := (all (α := α)).find? fun a => wire a = s

def toJson (a : α) : Json := .text (wire a)

/-- The value that a JSON string names. -/
def ofJson? (v : Json) : Option α := v.text?.bind ofWire?

variable (α) in
/-- The JSON form of a value of the type. -/
def format : Json.Format := .choice ((all (α := α)).map wire)

end Named

end CivicForum
