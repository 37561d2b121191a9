import TextSieve.Filter.Diagnostic
import TextSieve.Filter.Basic
import TextSieve.Output.Styled

/-!
Output for people: a line for each outcome with a coloured verdict, and a listing of a rule set
with the entries that were left out.
-/

namespace TextSieve.Readable

open Styled

/-- A verdict in its colour. -/
def verdict (matched : Bool) : List Piece :=
  [.setStyle (if matched then .green else .red) true, .text (Text.ofBool matched), .reset]

/-- The line for an outcome. -/
def outcome (o : Outcome) : List Piece :=
  .text ('"' :: o.input ++ "\" matches? ".toList) :: verdict o.matched ++ [.text ['\n']]

/-- The lines for outcomes. -/
def outcomes (os : List Outcome) : List Piece := os.flatMap outcome

/-- The name of a set in its listing. -/
def setName (name : Text) : Text := if name.isEmpty then "<unnamed>" else name

/-- The first line of a listing. -/
def header (s : RuleSet) : Text :=
  Text.line ("Filter: ".toList ++ setName s.name ++ " (".toList ++ Text.ofNat s.size ++
    " rules)".toList)

/-- The line for a rule at a position. -/
def rule (index : Nat) (r : Rule) : Text :=
  Text.line ("  [".toList ++ Text.ofNat index ++ "] ".toList ++ r.method ++ " ".toList ++
    r.pattern.quoted ++
    (if r.caseSensitive then " (case-sensitive)" else " (case-insensitive)" : String).toList)

/-- The lines for rules, the first of which has the given position. -/
def rules (index : Nat) : List Rule → Text
  | [] => []
  | r :: rs => rule index r ++ rules (index + 1) rs

/-- The lines for entries that were left out. -/
def dropped (ds : List Diagnostic) : List Piece :=
  if ds.isEmpty then []
  else
    [.text ['\n'], .setStyle .yellow false,
      .text (Text.line ("Skipped ".toList ++ Text.ofNat ds.length ++
        " invalid filters:".toList)), .reset,
      .text (ds.flatMap fun d => Text.line ("  ".toList ++ d.message))]

/-- The listing of a rule set. -/
def listing (s : RuleSet) (ds : List Diagnostic) : List Piece :=
  .text (header s) :: .text (rules 0 s.rules) :: dropped ds

/-- The lines for outcomes, without colour. -/
def outcomesText (os : List Outcome) : Text := plain (outcomes os)

/-- The listing of a rule set, without colour. -/
def listingText (s : RuleSet) (ds : List Diagnostic) : Text := plain (listing s ds)

end TextSieve.Readable
