import TextSieve.Regex.Place

/-!
What can be wrong with a pattern. A fault of syntax points to the part of the pattern that is at
fault; its report shows the pattern with that part underlined.
-/

namespace TextSieve.Regex

/-- The most levels of groups, classes and operators in a pattern. -/
def nestLimit : Nat := 250

/-- The most memory for a compiled pattern, in bytes. -/
def sizeLimit : Nat := 10485760

/-- The ways in which a pattern can be wrong. -/
inductive Flaw where
  | classEscape
  | classRangeOrder
  | classRangeEnd
  | classUnclosed
  | numberTooLarge
  | hexEmpty
  | hexNotScalar
  | hexDigit
  | escapeUnfinished
  | escapeUnknown
  | flagDanglingNegation
  | flagDuplicate
  | flagRepeatedNegation
  | flagUnfinished
  | flagUnknown
  | groupNameDuplicate
  | groupNameEmpty
  | groupNameChar
  | groupNameUnfinished
  | groupUnclosed
  | groupUnopened
  | tooDeep
  | countOrder
  | countMissing
  | countUnclosed
  | nothingToRepeat
  | boundaryUnclosed
  | boundaryUnknown
  | boundaryUnfinished
  | propertyEscape
  | backreference
  | lookAround
  | needsUnicode
  | notUtf8
  | propertyUnknown
  | propertyValueUnknown
  deriving DecidableEq

/-- The wording of a flaw. -/
def Flaw.message : Flaw → Text
  | classEscape => "invalid escape sequence found in character class"
  | classRangeOrder => "invalid character class range, the start must be <= the end"
  | classRangeEnd => "invalid range boundary, must be a literal"
  | classUnclosed => "unclosed character class"
  | numberTooLarge => "decimal literal invalid"
  | hexEmpty => "hexadecimal literal empty"
  | hexNotScalar => "hexadecimal literal is not a Unicode scalar value"
  | hexDigit => "invalid hexadecimal digit"
  | escapeUnfinished => "incomplete escape sequence, reached end of pattern prematurely"
  | escapeUnknown => "unrecognized escape sequence"
  | flagDanglingNegation => "dangling flag negation operator"
  | flagDuplicate => "duplicate flag"
  | flagRepeatedNegation => "flag negation operator repeated"
  | flagUnfinished => "expected flag but got end of regex"
  | flagUnknown => "unrecognized flag"
  | groupNameDuplicate => "duplicate capture group name"
  | groupNameEmpty => "empty capture group name"
  | groupNameChar => "invalid capture group character"
  | groupNameUnfinished => "unclosed capture group name"
  | groupUnclosed => "unclosed group"
  | groupUnopened => "unopened group"
  | tooDeep =>
    "exceed the maximum number of nested parentheses/brackets (".toList ++
      Text.ofNat nestLimit ++ ")".toList
  | countOrder => "invalid repetition count range, the start must be <= the end"
  | countMissing => "repetition quantifier expects a valid decimal"
  | countUnclosed => "unclosed counted repetition"
  | nothingToRepeat => "repetition operator missing expression"
  | boundaryUnclosed =>
    "special word boundary assertion is either unclosed or contains an invalid character"
  | boundaryUnknown =>
    "unrecognized special word boundary assertion, ".toList ++
      "valid choices are: start, end, start-half or end-half".toList
  | boundaryUnfinished =>
    "found either the beginning of a special word boundary or a bounded repetition ".toList ++
      "on a \\b with an opening brace, but no closing brace".toList
  | propertyEscape => "invalid Unicode character class"
  | backreference => "backreferences are not supported"
  | lookAround => "look-around, including look-ahead and look-behind, is not supported"
  | needsUnicode => "Unicode not allowed here"
  | notUtf8 => "pattern can match invalid UTF-8"
  | propertyUnknown => "Unicode property not found"
  | propertyValueUnknown => "Unicode property value not found"

/-- A flaw, the part of the pattern at fault, and an earlier part that it clashes with. -/
structure Fault where
  flaw : Flaw
  span : Span
  other : Option Span
  deriving DecidableEq

/-- A flaw of one part of the pattern. -/
def Fault.of (flaw : Flaw) (span : Span) : Fault := ⟨flaw, span, none⟩

/-- Why a pattern does not compile. -/
inductive Error where
  | syntaxFault (fault : Fault)
  | tooBig
  deriving DecidableEq

end TextSieve.Regex
