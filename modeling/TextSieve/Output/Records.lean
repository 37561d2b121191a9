import TextSieve.Filter.Diagnostic
import TextSieve.Filter.Basic
import TextSieve.Json.Writer

/-!
Output for programs: one JSON object on each line, and a summary on the last.
-/

namespace TextSieve.Records

/-- A number in a record. -/
def count (n : Nat) : Value := .int n

/-- A record of some type on a line of its own. -/
def record (type : Text) (fields : List (Text × Value)) : Text :=
  Text.line (Json.write (.obj (("type", .str type) :: fields)))

/-- The record of an outcome. -/
def outcome (o : Outcome) : Text :=
  record "match" [("input", .str o.input), ("matched", .bool o.matched),
    ("rule", (o.rule.map count).getD .null)]

/-- The records of outcomes and a summary with the name of the set. -/
def outcomes (name : Text) (os : List Outcome) : Text :=
  os.flatMap outcome ++
    record "summary" [("filter", .str name), ("inputs", count os.length),
      ("matched", count (os.countP (·.matched)))]

/-- The record of a rule at a position. -/
def rule (index : Nat) (r : Rule) : Text :=
  record "rule" [("index", count index), ("method", .str r.method), ("pattern", .str r.pattern),
    ("case_sensitive", .bool r.caseSensitive)]

/-- The records of rules, the first of which has the given position. -/
def rules (index : Nat) : List Rule → Text
  | [] => []
  | r :: rs => rule index r ++ rules (index + 1) rs

/-- The record of an entry that was left out. -/
def diagnostic (d : Diagnostic) : Text :=
  record "diagnostic" [("index", count d.index), ("kind", .str d.kind.name),
    ("message", .str d.message)]

/-- The records of the rules of a set and of the entries that were left out, and a summary. -/
def listing (s : RuleSet) (ds : List Diagnostic) : Text :=
  rules 0 s.rules ++ ds.flatMap diagnostic ++
    record "summary" [("filter", .str s.name), ("rules", count s.size),
      ("skipped", count ds.length)]

end TextSieve.Records
