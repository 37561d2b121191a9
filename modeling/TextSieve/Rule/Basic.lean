import TextSieve.Text.Quoted

/-!
Rules. A rule is one way of testing a text, together with what it was made from; constructors make
rules from patterns and may refuse.
-/

namespace TextSieve

/-- A test of texts. The method is what the rule says of itself; it need not be the name under
which the rule was asked for. -/
structure Rule where
  method : Text
  pattern : Text
  caseSensitive : Bool
  /-- The text passes the test. -/
  accepts : Text → Bool
  /-- The rule as it is shown for inspection. -/
  shown : Text

/-- Why no rule could be made. -/
inductive RuleError where
  | invalidRegex (pattern message : Text)
  | unknownMethod (method : Text) (valid : List Text)
  deriving DecidableEq

/-- The wording of an error. -/
def RuleError.message : RuleError → Text
  | invalidRegex pattern message =>
    "Invalid regex pattern '".toList ++ pattern ++ "': ".toList ++ message
  | unknownMethod method valid =>
    "Unknown filter method '".toList ++ method ++ "'. Possible methods: ".toList ++
      Text.join ", " valid

/-- Makes a rule from a pattern and the wish to tell capitals from small letters. -/
abbrev Constructor := Text → Bool → Except RuleError Rule

/-- A structure with named fields, for inspection. -/
def showFields (name : Text) (fields : List (Text × Text)) : Text :=
  name ++ " \x7b ".toList ++ Text.join ", " (fields.map fun f => f.1 ++ ": ".toList ++ f.2) ++
    " \x7d".toList

end TextSieve
