import TextSieve.Text.Basic
import TextSieve.Text.CaseTable

/-!
The lower case of a text. Every character is mapped on its own, except the capital sigma, which
becomes a final sigma at the end of a word: after a cased character and not before one, where
characters that case ignores are passed over on both sides.
-/

namespace TextSieve

open CaseTable

/-- The lower case of a character on its own. -/
def lowerChar (c : Char) : Text :=
  if c = 'İ' then ['i', '\u0307']
  else
    match runs.findSome? (·.lower? c.toNat) with
    | some n => [Char.ofNat n]
    | none => [c]

/-- The first character that case does not ignore is cased. -/
def meetsCased (t : Text) : Bool :=
  match t.dropWhile caseIgnorable.contains with
  | c :: _ => cased.contains c
  | [] => false

/-- The form of a sigma between the text before it, read backwards, and the text after it. -/
def lowerSigma (before after : Text) : Char :=
  if meetsCased before && !meetsCased after then 'ς' else 'σ'

namespace Text

/-- The lower case of a text that follows `before`, read backwards. -/
def lowercaseAfter (before : Text) : Text → Text
  | [] => []
  | c :: t =>
    (if c = 'Σ' then [lowerSigma before t] else lowerChar c) ++ lowercaseAfter (c :: before) t

/-- The lower case of a text. -/
def lowercase (t : Text) : Text := lowercaseAfter [] t

end Text

end TextSieve
