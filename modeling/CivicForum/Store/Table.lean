/-! # Tables

* `Table`: rows and the last identifier that was given out; identifiers are never used again.
* `Table.find?`, `Table.update`, `Table.insert`: one row by its identifier, changed or added.
* `Table.reserve`: an identifier that is used up without a row.
-/

set_option autoImplicit false

namespace CivicForum

/-- A kind of row that carries its identifier. -/
class Keyed (α : Type) where
  key : α → Int

/-- Rows in the order they were added. `lastId` is the largest identifier ever given out, and 0
before the first. -/
structure Table (α : Type) where
  rows : List α := []
  lastId : Int := 0
  deriving Repr, DecidableEq

namespace Table

variable {α : Type} [Keyed α]

/-- The row with an identifier. -/
def find? (t : Table α) (id : Int) : Option α := t.rows.find? fun r => Keyed.key r = id

def contains (t : Table α) (id : Int) : Bool := (t.find? id).isSome

/-- Changes the row with an identifier. -/
def update (t : Table α) (id : Int) (f : α → α) : Table α :=
  { t with rows := t.rows.map fun r => if Keyed.key r = id then f r else r }

/-- Changes every row. -/
def mapRows (t : Table α) (f : α → α) : Table α := { t with rows := t.rows.map f }

/-- The identifier that the next row gets. -/
def nextId (t : Table α) : Int := t.lastId + 1

/-- Adds a row after all others. -/
def insert (t : Table α) (r : α) : Table α where
  rows := t.rows ++ [r]
  lastId := max t.lastId (Keyed.key r)

/-- Counts an identifier as given out, whether or not a row has it. -/
def reserve (t : Table α) (id : Int) : Table α := { t with lastId := max t.lastId id }

end Table

end CivicForum
