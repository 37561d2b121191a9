import TextSieve.Rule.Basic
import TextSieve.Regex.Basic

/-!
Rules that search for a regular expression. The wish about case is kept but changes nothing: the
expression itself says whether case counts.
-/

namespace TextSieve.Rule

/-- Accepts the texts in which the expression finds a match. -/
def ofRegex (r : Regex) (caseSensitive : Bool) : Rule where
  method := "regex"
  pattern := r.pattern
  caseSensitive := caseSensitive
  accepts := r.isMatch
  shown := showFields "RegexRule" [("pattern", r.pattern.quoted),
    ("case_sensitive", Text.ofBool caseSensitive)]

/-- Compiles a pattern to a rule. -/
def regex (pattern : Text) (caseSensitive : Bool) : Except RuleError Rule :=
  match Regex.compile pattern with
  | .ok r => .ok (ofRegex r caseSensitive)
  | .error e => .error (.invalidRegex pattern (e.message pattern))

end TextSieve.Rule
