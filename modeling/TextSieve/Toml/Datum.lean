import TextSieve.Json.Value
import TextSieve.Toml.Moment

/-!
Values of TOML texts, and what becomes of them in document trees. A tree has no moments, so a
moment becomes an object with one member; and its numbers are finite, so a number that is not
becomes null.
-/

namespace TextSieve.Toml

/-- A value of a TOML text. -/
inductive Datum where
  | text (t : Text)
  | integer (i : Int)
  /-- A binary number, or none of them: an infinite one, or one that is not a number. -/
  | float (x : Option Binary64)
  | truth (b : Bool)
  | moment (m : Moment)
  | array (items : List Datum)
  | table (members : List (Text × Datum))

/-- The only member of the object that stands for a moment. -/
def momentKey : Text := "$__toml_private_datetime"

/-- The document tree of a moment. -/
def Moment.toValue (m : Moment) : Value := .obj [(momentKey, .str m.write)]

mutual

/-- The document tree of a value. -/
def Datum.toValue : Datum → Value
  | .text t => .str t
  | .integer i => .int i
  | .float (some x) => .float x
  | .float none => .null
  | .truth b => .bool b
  | .moment m => m.toValue
  | .array ds => .arr (treesOf ds)
  | .table ms => .obj (memberTreesOf ms)

/-- The document trees of the items of an array. -/
def treesOf : List Datum → List Value
  | [] => []
  | d :: ds => d.toValue :: treesOf ds

/-- The members of an object from those of a table. -/
def memberTreesOf : List (Text × Datum) → List (Text × Value)
  | [] => []
  | (k, d) :: ms => (k, d.toValue) :: memberTreesOf ms

end

end TextSieve.Toml
