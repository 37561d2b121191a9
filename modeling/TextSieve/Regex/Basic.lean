import TextSieve.Regex.Parse.Pattern
import TextSieve.Regex.Nesting
import TextSieve.Regex.Meaning
import TextSieve.Regex.Footprint
import TextSieve.Regex.Search
import TextSieve.Regex.Report

/-!
Compiled patterns. A pattern is read, checked for its depth, given a meaning, and checked for its
size; a text matches it when some part of the text does.
-/

namespace TextSieve

/-- A compiled pattern. -/
structure Regex where
  pattern : Text
  expr : Regex.Expr Regex.Leaf

namespace Regex

/-- The form that a pattern stands for. -/
def formOf (pattern : Text) : Except Fault Form := do
  let x ← Parse.readPattern pattern
  Nesting.check x
  Meaning.ofNode x

/-- Compiles a pattern. -/
def compile (pattern : Text) : Except Error Regex :=
  match formOf pattern with
  | .error fault => .error (.syntaxFault fault)
  | .ok f => if Footprint.fits sizeLimit f then .ok ⟨pattern, f.expr⟩ else .error .tooBig

/-- Some part of the text matches the pattern. -/
def isMatch (r : Regex) (text : Text) : Bool := r.expr.search text

end Regex

end TextSieve
