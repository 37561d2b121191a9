import TextSieve.Regex.Syntax
import TextSieve.Regex.Error

/-!
Atoms of a pattern: single characters, escapes, and predefined classes outside brackets.
-/

namespace TextSieve.Regex.Parse

/-- A fault in one part of the pattern. -/
def fail {α : Type} (flaw : Flaw) (span : Span) : Except Fault α := .error (.of flaw span)

/-- The smallest part of a pattern. -/
inductive Atom where
  | literal (l : Literal)
  | dot (span : Span)
  | assertion (span : Span) (kind : Assertion)
  | named (c : NamedClass)

def Atom.span : Atom → Span
  | literal l => l.span
  | dot s => s
  | assertion s _ => s
  | named c => c.span

def Atom.node : Atom → Node
  | literal l => .literal l
  | dot s => .dot s
  | assertion s k => .assertion s k
  | named c => .named c

/-! ### Numbers -/

/-- The number that digits stand for in a base. -/
def number (base : Nat) (digit : Char → Nat) (ds : Text) : Nat :=
  ds.foldl (fun n d => n * base + digit d) 0

def decimalDigit (c : Char) : Nat := c.toNat - 48

/-- A decimal number of at most 32 bits, with blanks around it. -/
def readDecimal (free : Bool) (c : Cursor) : Except Fault (Nat × Cursor) :=
  let c := (c.takeWhile false Text.isBlank).2
  let start := c.place
  let (digits, c) := c.takeWhile free Char.isDigit
  let span := c.spanFrom start
  let c := (c.takeWhile free Text.isBlank).2
  if digits.isEmpty then fail .countMissing span
  else
    let n := number 10 decimalDigit digits
    if n < Nat.pow 2 32 then .ok (n, c) else fail .numberTooLarge span

def isHexDigit (c : Char) : Bool :=
  c.isDigit || ('a' ≤ c && c ≤ 'f') || ('A' ≤ c && c ≤ 'F')

def hexDigit (c : Char) : Nat :=
  if c.isDigit then c.toNat - 48 else if c.isLower then c.toNat - 87 else c.toNat - 55

/-- The character with a number, if there is one. -/
def scalar? (n : Nat) : Option Char := if n.isValidChar then some (Char.ofNat n) else none

/-- A fixed number of hexadecimal digits, from the cursor on; `c` is at the first of them. -/
def readHexDigits (free : Bool) : Nat → Cursor → Except Fault (Text × Cursor)
  | 0, c => .ok ([], c)
  | n + 1, c =>
    match c.char? with
    | none => fail .escapeUnfinished (.point c.place)
    | some x =>
      if isHexDigit x then do
        let (xs, c) ← readHexDigits free n (c.advance free)
        .ok (x :: xs, c)
      else fail .hexDigit c.charSpan

/-- Hexadecimal digits up to a closing brace; `c` is behind the opening brace or a digit. -/
def readHexRun (free : Bool) (brace : Place) : Nat → Cursor → Except Fault (Text × Cursor)
  | 0, c => fail .escapeUnfinished (c.spanFrom brace)
  | fuel + 1, c =>
    match c.char? with
    | none => fail .escapeUnfinished (c.spanFrom brace)
    | some x =>
      if x = '}' then .ok ([], c)
      else if isHexDigit x then do
        let (xs, c) ← readHexRun free brace fuel (c.advance free)
        .ok (x :: xs, c)
      else fail .hexDigit c.charSpan

/-- A character by its code; `c` is at the letter that says how many digits there are. -/
def readHex (free : Bool) (start : Place) (digits : Nat) (c : Cursor) :
    Except Fault (Literal × Cursor) := do
  let c := c.advance free
  if c.atEnd then fail .escapeUnfinished (.point c.place)
  if c.char? = some '{' then
    let brace := c.place
    let first := c.next.place
    let (ds, e) ← readHexRun free brace (c.rest.length + 1) (c.advance free)
    let stop := e.place
    let c := e.advance free
    if ds.isEmpty then fail .hexEmpty (c.spanFrom brace)
    match scalar? (number 16 hexDigit ds) with
    | some x => .ok (⟨c.spanFrom start, x, false⟩, c)
    | none => fail .hexNotScalar ⟨first, stop⟩
  else
    let first := c.place
    let (ds, c) ← readHexDigits free digits c
    match scalar? (number 16 hexDigit ds) with
    | some x => .ok (⟨c.spanFrom start, x, digits == 2⟩, c)
    | none => fail .hexNotScalar (c.spanFrom first)

/-! ### Properties -/

/-- The parts of a text around the first occurrence of a word. -/
def splitAround? (word : Text) : Text → Option (Text × Text)
  | [] => none
  | c :: t =>
    if word.isPrefixOf (c :: t) then some ([], (c :: t).drop word.length)
    else (splitAround? word t).map fun r => (c :: r.1, r.2)

/-- What the text between braces asks for. -/
def queryOf (t : Text) : PropertyQuery :=
  match splitAround? "!=" t with
  | some (n, v) => .value n v true
  | none =>
    match splitAround? ":" t with
    | some (n, v) => .value n v false
    | none =>
      match splitAround? "=" t with
      | some (n, v) => .value n v false
      | none => .name t

/-- A class of characters with a property; `c` is at the letter behind the backslash. -/
def readProperty (free : Bool) (start : Place) (c : Cursor) :
    Except Fault (NamedClass × Cursor) := do
  let negated := c.char? = some 'P'
  let c := c.advance free
  match c.char? with
  | none => fail .escapeUnfinished (.point c.place)
  | some '{' =>
    let (name, c) := (c.advance free).takeWhile free (· ≠ '}')
    if c.atEnd then fail .escapeUnfinished (.point c.place)
    let c := c.next
    .ok (.property (c.spanFrom start) (queryOf name) negated, c)
  | some '\\' => fail .propertyEscape c.charSpan
  | some x =>
    let c := c.advance free
    .ok (.property (c.spanFrom start) (.name [x]) negated, c)

/-! ### Escapes -/

/-- Characters with a meaning of their own, in a class or outside. -/
def metaChars : Text := "\\.+*?()|[]\x7b\x7d^$#&-~"

/-- Characters that may stand behind a backslash for themselves. -/
def isEscapable (c : Char) : Bool :=
  metaChars.contains c || (c.toNat < 128 && !c.isAlphanum && c ≠ '<' && c ≠ '>')

/-- Letters in the name of a boundary. -/
def isBoundaryChar (c : Char) : Bool := c.isAlpha || c = '-'

/-- The name of a boundary between braces; `c` is at the opening brace. When no name can begin
there, the brace belongs to a repetition. -/
def readBoundary? (free : Bool) (start : Place) (c : Cursor) :
    Except Fault (Option (Assertion × Cursor)) := do
  let b := c.advance free
  match b.char? with
  | none => fail .boundaryUnfinished (b.spanFrom start)
  | some x =>
    if !isBoundaryChar x then .ok none
    else
      let (name, e) := b.takeWhile free isBoundaryChar
      if e.char? ≠ some '}' then fail .boundaryUnclosed (e.spanFrom c.place)
      match Assertion.boundaryNames.lookup name with
      | some k => .ok (some (k, e.next))
      | none => fail .boundaryUnknown (e.spanFrom b.place)

/-- Letters behind a backslash that stand for a control character. -/
def controlChar? : Char → Option Char
  | 'a' => some '\x07'
  | 'f' => some '\x0c'
  | 't' => some '\t'
  | 'n' => some '\n'
  | 'r' => some '\r'
  | 'v' => some '\x0b'
  | _ => none

/-- Letters behind a backslash that stand for a condition on the place. -/
def assertionChar? : Char → Option Assertion
  | 'A' => some .startText
  | 'z' => some .endText
  | 'B' => some .notWordBoundary
  | '<' => some .wordStart
  | '>' => some .wordEnd
  | _ => none

/-- Letters behind a backslash that stand for a class. -/
def shortClass? : Char → Option (ShortClass × Bool)
  | 'd' => some (.digit, false)
  | 'D' => some (.digit, true)
  | 's' => some (.space, false)
  | 'S' => some (.space, true)
  | 'w' => some (.word, false)
  | 'W' => some (.word, true)
  | _ => none

/-- The number of digits behind a letter that introduces a code. -/
def hexLength? : Char → Option Nat
  | 'x' => some 2
  | 'u' => some 4
  | 'U' => some 8
  | _ => none

/-- An escape; `c` is at the backslash. -/
def readEscape (free : Bool) (c : Cursor) : Except Fault (Atom × Cursor) := do
  let start := c.place
  let c := c.next
  match c.char? with
  | none => fail .escapeUnfinished (c.spanFrom start)
  | some x =>
    let e := c.next
    let span := e.spanFrom start
    if x.isDigit then fail .backreference span
    else if let some n := hexLength? x then
      let (l, c) ← readHex free start n c
      .ok (.literal l, c)
    else if x = 'p' || x = 'P' then
      let (p, c) ← readProperty free start c
      .ok (.named p, c)
    else if let some (k, negated) := shortClass? x then
      .ok (.named (.short span k negated), e)
    else if isEscapable x then .ok (.literal ⟨span, x, false⟩, e)
    else if let some y := controlChar? x then .ok (.literal ⟨span, y, false⟩, e)
    else if let some k := assertionChar? x then .ok (.assertion span k, e)
    else if x = 'b' then
      if e.char? = some '{' then
        match ← readBoundary? free start e with
        | some (k, c) => .ok (.assertion (c.spanFrom start) k, c)
        | none => .ok (.assertion span .wordBoundary, e)
      else .ok (.assertion span .wordBoundary, e)
    else fail .escapeUnknown span

/-- An atom outside brackets. -/
def readAtom (free : Bool) (c : Cursor) (x : Char) : Except Fault (Atom × Cursor) :=
  match x with
  | '\\' => readEscape free c
  | '.' => .ok (.dot c.charSpan, c.next)
  | '^' => .ok (.assertion c.charSpan .startLine, c.next)
  | '$' => .ok (.assertion c.charSpan .endLine, c.next)
  | x => .ok (.literal ⟨c.charSpan, x, false⟩, c.next)

end TextSieve.Regex.Parse
