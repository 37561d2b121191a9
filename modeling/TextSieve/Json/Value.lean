import TextSieve.Keyed
import TextSieve.Number.Binary64

/-!
Document trees: null, truth values, integers, binary numbers, texts, arrays, and objects whose
members stand in the order of their keys.
-/

namespace TextSieve

/-- A document tree. -/
inductive Value where
  | null
  | bool (b : Bool)
  | int (i : Int)
  | float (x : Binary64)
  | str (t : Text)
  | arr (items : List Value)
  | obj (members : List (Text × Value))

namespace Value

/-- The members of an object. -/
def members? : Value → Option (List (Text × Value))
  | obj ms => some ms
  | _ => none

/-- The items of an array. -/
def items? : Value → Option (List Value)
  | arr vs => some vs
  | _ => none

/-- The text of a string. -/
def text? : Value → Option Text
  | str t => some t
  | _ => none

/-- An object from members in any order; of two with one key the later counts. -/
def ofMembers (ms : List (Text × Value)) : Value :=
  obj (ms.foldl (fun acc m => Keyed.put m.1 m.2 acc) [])

end Value

end TextSieve
