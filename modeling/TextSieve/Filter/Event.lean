import TextSieve.Filter.Diagnostic

/-!
What happens while a document is read, for the log.
-/

namespace TextSieve

/-- How important an event is. -/
inductive Level where
  | error
  | warn
  | info
  | debug
  | trace
  deriving DecidableEq

/-- The name of a level in the log. -/
def Level.name : Level → Text
  | error => "ERROR"
  | warn => "WARN"
  | info => "INFO"
  | debug => "DEBUG"
  | trace => "TRACE"

/-- Levels by how much they let through. -/
def Level.verbosity : Level → Nat
  | error => 1
  | warn => 2
  | info => 3
  | debug => 4
  | trace => 5

/-- Events of a reading. -/
inductive Event where
  | rootNotAMapping
  | keysMissing
  | filtersNotASequence
  | accepted (index : Nat) (method pattern : Text)
  | skipped (diagnostic : Diagnostic)
  | parsed (name : Text) (rules skipped : Nat)

/-- The value of a field of an event. -/
inductive FieldValue where
  | number (n : Nat)
  /-- A text that is shown between quotes. -/
  | text (t : Text)
  /-- A text that is shown as it is. -/
  | plain (t : Text)

namespace Event

/-- Only the end of a reading is of general interest. -/
def level : Event → Level
  | parsed .. => .info
  | _ => .debug

/-- The wording of an event. -/
def message : Event → Text
  | rootNotAMapping => "document root is not a mapping"
  | keysMissing => "document lacks 'name' or 'filters'"
  | filtersNotASequence => "'filters' is not a sequence"
  | accepted .. => "accepted filter"
  | skipped d => "skipping filter: ".toList ++ d.message
  | parsed .. => "parsed filter document"

/-- The fields of an event. -/
def fields : Event → List (Text × FieldValue)
  | accepted index method pattern =>
    [("index", .number index), ("method", .text method), ("pattern", .text pattern)]
  | skipped d => [("index", .number d.index), ("kind", .text d.kind.name)]
  | parsed name rules dropped =>
    [("name", .plain name), ("rules", .number rules), ("skipped", .number dropped)]
  | _ => []

end Event

end TextSieve
