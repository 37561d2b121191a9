import TextSieve.Text.Basic

/-!
What can be wrong with a JSON text, and where.
-/

namespace TextSieve.Json

/-- The ways in which a text fails to be JSON. -/
inductive Flaw where
  | unfinishedList
  | unfinishedObject
  | unfinishedString
  | unfinishedValue
  | expectedColon
  | expectedListEnd
  | expectedObjectEnd
  | expectedWord
  | expectedValue
  | badEscape
  | badNumber
  | numberTooLarge
  | loneSurrogate
  | brokenSurrogatePair
  | controlCharacter
  | keyNotAString
  | trailingComma
  | trailingCharacters
  | tooDeep
  deriving DecidableEq

/-- The wording of a flaw. -/
def Flaw.message : Flaw → Text
  | unfinishedList => "EOF while parsing a list"
  | unfinishedObject => "EOF while parsing an object"
  | unfinishedString => "EOF while parsing a string"
  | unfinishedValue => "EOF while parsing a value"
  | expectedColon => "expected \x60:\x60"
  | expectedListEnd => "expected \x60,\x60 or \x60]\x60"
  | expectedObjectEnd => "expected \x60,\x60 or \x60\x7d\x60"
  | expectedWord => "expected ident"
  | expectedValue => "expected value"
  | badEscape => "invalid escape"
  | badNumber => "invalid number"
  | numberTooLarge => "number out of range"
  | loneSurrogate => "lone leading surrogate in hex escape"
  | brokenSurrogatePair => "unexpected end of hex escape"
  | controlCharacter => "control character (\\u0000-\\u001F) found while parsing a string"
  | keyNotAString => "key must be a string"
  | trailingComma => "trailing comma"
  | trailingCharacters => "trailing characters"
  | tooDeep => "recursion limit exceeded"

/-- A flaw, and the number of bytes of the text that lie behind it. -/
structure Fault where
  flaw : Flaw
  left : Nat
  deriving DecidableEq

/-- A flaw just before the rest of a text. -/
def Fault.before (flaw : Flaw) (rest : Text) : Fault := ⟨flaw, rest.byteSize⟩

/-- A flaw at the first byte of the rest of a text, or at its end when there is none. -/
def Fault.at (flaw : Flaw) (rest : Text) : Fault := ⟨flaw, rest.byteSize - 1⟩

/-- The line of a byte offset and the number of bytes on that line up to it. -/
def lineColumn (line column : Nat) : Nat → Text → Nat × Nat
  | _, [] => (line, column)
  | offset, c :: t =>
    if offset < c.utf8Size then (line, column + offset)
    else if c = '\n' then lineColumn (line + 1) 0 (offset - 1) t
    else lineColumn line (column + c.utf8Size) (offset - c.utf8Size) t

/-- The wording of a fault in a text. -/
def Fault.message (text : Text) (f : Fault) : Text :=
  let p := lineColumn 1 0 (text.byteSize - f.left) text
  f.flaw.message ++ " at line ".toList ++ Text.ofNat p.1 ++ " column ".toList ++ Text.ofNat p.2

end TextSieve.Json
