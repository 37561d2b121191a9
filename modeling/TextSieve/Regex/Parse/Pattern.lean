import TextSieve.Regex.Parse.Class
import TextSieve.Regex.Parse.Group

/-!
Whole patterns. The reader goes through a pattern from left to right and keeps a stack of the
groups and alternations that are open.
-/

namespace TextSieve.Regex.Parse

/-- A concatenation in the making: where it begins, and its parts, last first. -/
structure Concat where
  start : Place
  parts : List Node

/-- A finished concatenation, which ends at a place. -/
def Concat.node (k : Concat) (stop : Place) : Node :=
  match k.parts with
  | [] => .empty ⟨k.start, stop⟩
  | [x] => x
  | xs => .concat ⟨k.start, stop⟩ xs.reverse

def Concat.push (k : Concat) (x : Node) : Concat := { k with parts := x :: k.parts }

/-- What waits for the end of a group or of a branch. -/
inductive Frame where
  /-- An open group: what is before it, its parenthesis, its flags unless it captures, and
  whether spacing is free around it. -/
  | group (outer : Concat) (paren : Span) (flags : Option Flags) (free : Bool)
  /-- The branches read so far, last first. -/
  | branches (start : Place) (done : List Node)

/-- A pattern while it is read. -/
structure State where
  cursor : Cursor
  free : Bool
  concat : Concat
  stack : List Frame
  names : List (Text × Span)

/-- The last part before a repetition operator, and what is before that part. -/
def State.operand (s : State) : Except Fault (Node × Concat) :=
  match s.concat.parts with
  | .empty _ :: _ | .flags .. :: _ | [] => fail .nothingToRepeat (.point s.cursor.place)
  | x :: xs => .ok (x, { s.concat with parts := xs })

/-- Puts a repetition in the place of its operand; the cursor is behind the operator. -/
def State.repeated (s : State) (operand : Node) (before : Concat) (min : Nat)
    (max : Option Nat) (greedy : Bool) (c : Cursor) : State :=
  { s with
    cursor := c
    concat := before.push (.repeated ⟨operand.span.start, c.place⟩ operand min max greedy) }

/-- A repetition is greedy unless a question mark follows it. -/
def readGreed (c : Cursor) : Bool × Cursor :=
  if c.char? = some '?' then (false, c.next) else (true, c)

/-- A repetition given by one character. -/
def State.readOperator (s : State) (min : Nat) (max : Option Nat) : Except Fault State := do
  let (x, before) ← s.operand
  let (greedy, c) := readGreed s.cursor.next
  .ok (s.repeated x before min max greedy c)

/-- The bounds of a counted repetition, up to the closing brace. A missing lower bound is a fault
only when the upper bound has been seen not to be missing too. -/
def readBounds (free : Bool) (start : Place) (c : Cursor) :
    Except Fault ((Nat × Option Nat) × Cursor) := do
  let first := readDecimal free c
  let c :=
    match first with
    | .ok (_, c) => c
    | .error _ =>
      let c := (c.takeWhile false Text.isBlank).2
      let c := (c.takeWhile free Char.isDigit).2
      (c.takeWhile free Text.isBlank).2
  if c.atEnd then fail .countUnclosed (c.spanFrom start)
  if c.char? = some ',' then
    let c := c.advance free
    if c.atEnd then fail .countUnclosed (c.spanFrom start)
    let (n, _) ← first
    if c.char? = some '}' then .ok ((n, none), c)
    else
      let (m, c) ← readDecimal free c
      .ok ((n, some m), c)
  else
    let (n, _) ← first
    .ok ((n, some n), c)

/-- A counted repetition; the cursor is at the opening brace. -/
def State.readCounted (s : State) : Except Fault State := do
  let start := s.cursor.place
  let (x, before) ← s.operand
  let c := s.cursor.advance s.free
  if c.atEnd then fail .countUnclosed (c.spanFrom start)
  let ((min, max), c) ← readBounds s.free start c
  if c.char? ≠ some '}' then fail .countUnclosed (c.spanFrom start)
  let (greedy, c) := readGreed (c.advance s.free)
  if max.any (· < min) then fail .countOrder (c.spanFrom start)
  .ok (s.repeated x before min max greedy c)

/-- Ends a branch. -/
def State.readBar (s : State) : State :=
  let c := s.cursor
  let branch := s.concat.node c.place
  let stack :=
    match s.stack with
    | .branches start done :: fs => .branches start (branch :: done) :: fs
    | fs => .branches s.concat.start [branch] :: fs
  { s with cursor := c.next, concat := ⟨c.next.place, []⟩, stack := stack }

/-- Begins a group, or takes up flags. -/
def State.readParen (s : State) : Except Fault State := do
  let paren := s.cursor.charSpan
  let (opening, c) ← readOpeningGroup s.free s.names s.cursor
  match opening with
  | .directive flags =>
    .ok { s with
      cursor := c
      free := (flags.state .freeSpacing).getD s.free
      concat := s.concat.push (.flags (c.spanFrom paren.start) flags) }
  | .group flags =>
    .ok { s with
      cursor := c
      free := (flags.state .freeSpacing).getD s.free
      concat := ⟨c.place, []⟩
      stack := .group s.concat paren (some flags) s.free :: s.stack }
  | .capture name =>
    .ok { s with
      cursor := c
      concat := ⟨c.place, []⟩
      stack := .group s.concat paren none s.free :: s.stack
      names := name.toList ++ s.names }

/-- A group with its content. -/
def groupNode (span : Span) (flags : Option Flags) (sub : Node) : Node :=
  match flags with
  | some fs => .group span fs sub
  | none => .capture span sub

/-- What has been read since the last parenthesis, and the frames around it. -/
def State.closeBranches (s : State) : Node × List Frame :=
  let stop := s.cursor.place
  let last := s.concat.node stop
  match s.stack with
  | .branches start done :: fs => (.alternation ⟨start, stop⟩ (last :: done).reverse, fs)
  | fs => (last, fs)

/-- Ends a group. -/
def State.readClosing (s : State) : Except Fault State :=
  match s.closeBranches with
  | (sub, .group outer paren flags free :: fs) =>
    let c := s.cursor.next
    .ok { s with
      cursor := c
      free := free
      concat := outer.push (groupNode (c.spanFrom paren.start) flags sub)
      stack := fs }
  | _ => fail .groupUnopened s.cursor.charSpan

/-- One step through a pattern; `x` is the character at the cursor. -/
def State.step (s : State) (x : Char) : Except Fault State :=
  match x with
  | '(' => s.readParen
  | ')' => s.readClosing
  | '|' => .ok s.readBar
  | '[' => do
    let (n, c) ← readClass s.free s.cursor
    .ok { s with cursor := c, concat := s.concat.push n }
  | '?' => s.readOperator 0 (some 1)
  | '*' => s.readOperator 0 none
  | '+' => s.readOperator 1 none
  | '{' => s.readCounted
  | x => do
    let (a, c) ← readAtom s.free s.cursor x
    .ok { s with cursor := c, concat := s.concat.push a.node }

/-- The pattern that has been read when the end is reached. -/
def State.finish (s : State) : Except Fault Node :=
  match s.closeBranches with
  | (n, []) => .ok n
  | (_, .group _ paren _ _ :: _) => fail .groupUnclosed paren
  | (n, .branches .. :: _) => .ok n

/-- Steps through a pattern to its end. -/
def loop : Nat → State → Except Fault Node
  | 0, s => s.finish
  | fuel + 1, s =>
    let s := { s with cursor := s.cursor.skip s.free }
    match s.cursor.char? with
    | none => s.finish
    | some x => do loop fuel (← s.step x)

/-- Reads a pattern. -/
def readPattern (pattern : Text) : Except Fault Node :=
  loop (pattern.length + 1) ⟨.ofPattern pattern, false, ⟨.first, []⟩, [], []⟩

end TextSieve.Regex.Parse
