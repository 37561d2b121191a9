import TextSieve.Rule.Basic
import TextSieve.Text.Lowercase

/-!
Rules that compare texts: one asks whether the pattern occurs in the text, the other whether the
text ends with it. When case does not count, the lower cases of both are compared.
-/

namespace TextSieve

namespace Text

/-- The pattern occurs somewhere in the text. -/
def occursIn (pattern : Text) : Text → Bool
  | [] => pattern.isEmpty
  | c :: t => pattern.isPrefixOf (c :: t) || occursIn pattern t

/-- The text ends with the pattern. -/
def ends (pattern text : Text) : Bool := pattern.isSuffixOf text

/-- A text as it is compared. -/
def fold (caseSensitive : Bool) (t : Text) : Text := if caseSensitive then t else t.lowercase

end Text

namespace Rule

/-- A rule that compares the folded text with the folded pattern. -/
def comparing (method name : Text) (compare : Text → Text → Bool) (pattern : Text)
    (caseSensitive : Bool) : Rule where
  method := method
  pattern := pattern
  caseSensitive := caseSensitive
  accepts text := compare (pattern.fold caseSensitive) (text.fold caseSensitive)
  shown := showFields name [("pattern", showFields "TextPattern" [
    ("original", pattern.quoted), ("folded", (pattern.fold caseSensitive).quoted),
    ("case_sensitive", Text.ofBool caseSensitive)])]

/-- Accepts the texts in which the pattern occurs. -/
def contains (pattern : Text) (caseSensitive : Bool) : Rule :=
  comparing "contains" "ContainsRule" Text.occursIn pattern caseSensitive

/-- Accepts the texts that end with the pattern. -/
def endsWith (pattern : Text) (caseSensitive : Bool) : Rule :=
  comparing "endswith" "EndsWithRule" Text.ends pattern caseSensitive

end Rule

end TextSieve
