import TextSieve.Keyed
import TextSieve.Rule.Comparison
import TextSieve.Rule.Search

/-!
Registries of rule constructors. A registry maps method names to constructors and lists the names
in increasing order.
-/

namespace TextSieve

/-- The methods that every registry can start with. -/
inductive Method where
  | contains
  | endsWith
  | regex
  deriving DecidableEq

namespace Method

/-- All methods, in the order of their names. -/
def all : List Method := [contains, endsWith, regex]

/-- The name of a method in documents. -/
def name : Method → Text
  | contains => "contains"
  | endsWith => "endswith"
  | regex => "regex"

/-- The constructor of the rules of a method. -/
def constructor : Method → Constructor
  | contains => fun pattern caseSensitive => .ok (.contains pattern caseSensitive)
  | endsWith => fun pattern caseSensitive => .ok (.endsWith pattern caseSensitive)
  | regex => Rule.regex

end Method

/-- Constructors under their method names. -/
structure Registry where
  entries : List (Text × Constructor)
  sorted : Keyed.Sorted entries

namespace Registry

/-- The registry without methods. -/
def empty : Registry := ⟨[], List.Pairwise.nil⟩

/-- Registers a constructor; the one registered before under the name is replaced. -/
def register (r : Registry) (method : Text) (c : Constructor) : Registry :=
  ⟨Keyed.put method c r.entries, r.sorted.put method c⟩

/-- The constructor registered under a name. -/
def find? (r : Registry) (method : Text) : Option Constructor := r.entries.lookup method

/-- The name is registered. -/
def contains (r : Registry) (method : Text) : Bool := (r.find? method).isSome

/-- Registers a constructor and hands out the one it takes the place of. -/
def exchange (r : Registry) (method : Text) (c : Constructor) : Option Constructor × Registry :=
  (r.find? method, r.register method c)

/-- The registered names, in increasing order. -/
def methods (r : Registry) : List Text := r.entries.map (·.1)

def size (r : Registry) : Nat := r.entries.length

def isEmpty (r : Registry) : Bool := r.entries.isEmpty

/-- The registry of the three methods. -/
def builtin : Registry := Method.all.foldl (fun r m => r.register m.name m.constructor) empty

/-- Makes a rule of a method. -/
def build (r : Registry) (method pattern : Text) (caseSensitive : Bool) :
    Except RuleError Rule :=
  match r.find? method with
  | some c => c pattern caseSensitive
  | none => .error (.unknownMethod method r.methods)

/-- The registry as it is shown for inspection. -/
def shown (r : Registry) : Text :=
  showFields "RuleRegistry" [("methods", Text.quotedList r.methods)]

end Registry

end TextSieve
