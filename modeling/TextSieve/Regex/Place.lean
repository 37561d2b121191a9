import TextSieve.Text.Basic

/-!
Places in a pattern, stretches between them, and cursors that move along a pattern. Lines and
columns count from one, columns in characters.
-/

namespace TextSieve.Regex

/-- A place between two characters of a pattern. -/
structure Place where
  offset : Nat
  line : Nat
  column : Nat
  deriving DecidableEq

/-- The beginning of a pattern. -/
def Place.first : Place := ⟨0, 1, 1⟩

/-- The place behind a character. -/
def Place.after (p : Place) (c : Char) : Place :=
  if c = '\n' then ⟨p.offset + 1, p.line + 1, 1⟩ else ⟨p.offset + 1, p.line, p.column + 1⟩

/-- The part of a pattern between two places. -/
structure Span where
  start : Place
  stop : Place
  deriving DecidableEq

/-- The empty part at a place. -/
def Span.point (p : Place) : Span := ⟨p, p⟩

/-- A place in a pattern and what follows it. -/
structure Cursor where
  place : Place
  rest : Text

namespace Cursor

/-- The cursor at the beginning of a pattern. -/
def ofPattern (pattern : Text) : Cursor := ⟨.first, pattern⟩

/-- The character behind the cursor. -/
def char? (c : Cursor) : Option Char := c.rest.head?

def atEnd (c : Cursor) : Bool := c.rest.isEmpty

/-- Moves over one character, if there is one. -/
def next (c : Cursor) : Cursor :=
  match c.rest with
  | [] => c
  | x :: xs => ⟨c.place.after x, xs⟩

/-- Moves over blanks and comments; a comment runs from `#` to the end of its line. -/
def skipFrom (comment : Bool) (p : Place) : Text → Cursor
  | [] => ⟨p, []⟩
  | x :: xs =>
    if comment then skipFrom (x ≠ '\n') (p.after x) xs
    else if Text.isBlank x then skipFrom false (p.after x) xs
    else if x = '#' then skipFrom true (p.after x) xs
    else ⟨p, x :: xs⟩

/-- Moves over blanks and comments where the pattern is spaced freely. -/
def skip (free : Bool) (c : Cursor) : Cursor :=
  if free then skipFrom false c.place c.rest else c

/-- Moves over one character, and over the space behind it. -/
def advance (free : Bool) (c : Cursor) : Cursor := c.next.skip free

/-- The part of the pattern that the next character fills. -/
def charSpan (c : Cursor) : Span := ⟨c.place, c.next.place⟩

/-- The part of the pattern from an earlier place to the cursor. -/
def spanFrom (start : Place) (c : Cursor) : Span := ⟨start, c.place⟩

/-- Moves over a word, if it comes next. -/
def eat? : Text → Cursor → Option Cursor
  | [], c => some c
  | w :: ws, c => if c.char? = some w then eat? ws c.next else none

/-- Takes characters of a class as long as they come. -/
def takeRun (free : Bool) (p : Char → Bool) : Nat → Cursor → Text × Cursor
  | 0, c => ([], c)
  | fuel + 1, c =>
    match c.char? with
    | some x =>
      if p x then
        let r := takeRun free p fuel (c.advance free)
        (x :: r.1, r.2)
      else ([], c)
    | none => ([], c)

/-- Takes characters of a class as long as they come. -/
def takeWhile (free : Bool) (p : Char → Bool) (c : Cursor) : Text × Cursor :=
  c.takeRun free p c.rest.length

/-- Where free spacing holds, the character that follows the next one and the blanks behind it.
The search for it stops inside a comment at the first character that is not blank. -/
def peekFrom (comment : Bool) : Text → Option Char
  | [] => none
  | x :: xs =>
    if Text.isBlank x then peekFrom comment xs
    else if !comment && x == '#' then peekFrom true xs
    else some x

/-- The character behind the next one, blanks and comments not counted. -/
def peekSpace (free : Bool) (c : Cursor) : Option Char :=
  match c.rest with
  | [] => none
  | _ :: xs => if free then (peekFrom false xs).or xs.head? else xs.head?

/-- The character behind the next one. -/
def peek (c : Cursor) : Option Char := (c.rest.drop 1).head?

end Cursor

end TextSieve.Regex
