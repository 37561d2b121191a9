import TextSieve.Regex.Parse.Atom

/-!
Bracketed classes. A class is a union of items; `&&`, `--` and `~~` combine the union before them
with the one behind them, from left to right, and classes nest.
-/

namespace TextSieve.Regex.Parse

/-- A union in the making: where it begins, and its items, last first. -/
structure Union where
  start : Place
  items : List ClassNode

/-- A finished union. -/
def Union.node (u : Union) : ClassNode :=
  match u.items with
  | [] => .empty (.point u.start)
  | [x] => x
  | x :: xs => .union ⟨(xs.getLastD x).span.start, x.span.stop⟩ (x :: xs).reverse

def Union.push (u : Union) (x : ClassNode) : Union := { u with items := x :: u.items }

/-- What waits for the end of a class or of an operand. -/
inductive ClassFrame where
  /-- A class that is open, and the union around it. -/
  | opened (outer : Union) (span : Span) (negated : Bool)
  /-- An operator and its left operand. -/
  | operand (lhs : ClassNode) (kind : SetOp)

/-- The part of the pattern that opens the innermost open class. -/
def openSpan (at_ : Place) : List ClassFrame → Span
  | [] => .point at_
  | .opened _ span _ :: _ => span
  | .operand .. :: fs => openSpan at_ fs

/-- An operand together with the operator that waits for it. -/
def closeOperand (rhs : ClassNode) : List ClassFrame → ClassNode × List ClassFrame
  | .operand lhs kind :: fs => (.op ⟨lhs.span.start, rhs.span.stop⟩ kind lhs rhs, fs)
  | fs => (rhs, fs)

/-- A named ASCII class such as `[:alpha:]`, if one comes next. -/
def asciiClass? (c : Cursor) : Option (NamedClass × Cursor) := do
  let n ← c.eat? "[:"
  let first ← n.char?
  let n := if first = '^' then n.next else n
  let (name, e) := n.takeWhile false (· ≠ ':')
  let e ← e.eat? ":]"
  let kind ← AsciiClass.names.lookup name
  some (.ascii (e.spanFrom c.place) kind (first == '^'), e)

/-- Dashes at the front of a class stand for themselves. -/
def readDashes (free : Bool) (start : Place) : Nat → Union → Cursor → Except Fault (Union × Cursor)
  | 0, u, c => .ok (u, c)
  | fuel + 1, u, c =>
    if c.char? = some '-' then
      let u := u.push (.literal ⟨c.charSpan, '-', false⟩)
      let c := c.advance free
      if c.atEnd then fail .classUnclosed (.point start)
      else readDashes free start fuel u c
    else .ok (u, c)

/-- The beginning of a class: the bracket, a caret that negates it, and characters that stand for
themselves because they come first. The cursor is at the bracket. -/
def readOpening (free : Bool) (c : Cursor) :
    Except Fault ((Span × Bool × Union) × Cursor) := do
  let start := c.place
  let c := c.advance free
  if c.atEnd then fail .classUnclosed (c.spanFrom start)
  let negated : Bool := c.char? = some '^'
  let c := if negated then c.advance free else c
  if c.atEnd then fail .classUnclosed (c.spanFrom start)
  let (u, c) ← readDashes free start c.rest.length ⟨c.place, []⟩ c
  if u.items.isEmpty && c.char? = some ']' then
    let u := u.push (.literal ⟨c.charSpan, ']', false⟩)
    let c := c.advance free
    if c.atEnd then fail .classUnclosed (c.spanFrom start)
    .ok ((c.spanFrom start, negated, u), c)
  else .ok ((c.spanFrom start, negated, u), c)

/-- An item of a class that is no range. -/
def readClassAtom (free : Bool) (c : Cursor) (x : Char) : Except Fault (Atom × Cursor) :=
  if x = '\\' then readEscape free c else .ok (.literal ⟨c.charSpan, x, false⟩, c.next)

/-- An atom as an item of a class. -/
def Atom.item : Atom → Except Fault ClassNode
  | .literal l => .ok (.literal l)
  | .named n => .ok (.named n)
  | a => fail .classEscape a.span

/-- An atom as an end of a range. -/
def Atom.rangeEnd : Atom → Except Fault Literal
  | .literal l => .ok l
  | a => fail .classRangeEnd a.span

/-- An item of a class, or a range; `unclosed` is the fault when the class does not end. -/
def readItem (free : Bool) (unclosed : Span) (c : Cursor) (x : Char) :
    Except Fault (ClassNode × Cursor) := do
  let (first, c) ← readClassAtom free c x
  let c := c.skip free
  match c.char? with
  | none => fail .classUnclosed unclosed
  | some y =>
    let next := c.peekSpace free
    if y ≠ '-' || next == some ']' || next == some '-' then
      let item ← first.item
      .ok (item, c)
    else
      let c := c.advance free
      match c.char? with
      | none => fail .classUnclosed unclosed
      | some z => do
        let (last, c) ← readClassAtom free c z
        let span : Span := ⟨first.span.start, last.span.stop⟩
        let lo ← first.rangeEnd
        let hi ← last.rangeEnd
        if lo.char ≤ hi.char then .ok (.range span lo hi, c) else fail .classRangeOrder span

/-- The operator that a doubled character stands for. -/
def setOp? : Char → Option SetOp
  | '&' => some .intersection
  | '-' => some .difference
  | '~' => some .symmetricDifference
  | _ => none

/-- A class while it is read. -/
structure ClassState where
  cursor : Cursor
  union : Union
  stack : List ClassFrame

/-- One step through a class: the state after it, or the finished class. -/
def classStep (free : Bool) (s : ClassState) :
    Except Fault (ClassState ⊕ (Span × Bool × ClassNode) × Cursor) := do
  let c := s.cursor.skip free
  match c.char? with
  | none => fail .classUnclosed (openSpan c.place s.stack)
  | some '[' =>
    match if s.stack.isEmpty then none else asciiClass? c with
    | some (cls, c) => .ok (.inl ⟨c, s.union.push (.named cls), s.stack⟩)
    | none =>
      let ((span, negated, u), c) ← readOpening free c
      .ok (.inl ⟨c, u, .opened s.union span negated :: s.stack⟩)
  | some ']' =>
    match closeOperand s.union.node s.stack with
    | (body, .opened outer span negated :: stack) =>
      let c := c.next
      let span : Span := c.spanFrom span.start
      match stack with
      | [] => .ok (.inr ((span, negated, body), c))
      | stack => .ok (.inl ⟨c, outer.push (.bracketed span negated body), stack⟩)
    | _ => fail .classUnclosed (.point c.place)
  | some x =>
    match if c.peek = some x then setOp? x else none with
    | some kind =>
      let (lhs, stack) := closeOperand s.union.node s.stack
      let c := c.next.next
      .ok (.inl ⟨c, ⟨c.place, []⟩, .operand lhs kind :: stack⟩)
    | none =>
      let (item, c) ← readItem free (openSpan c.place s.stack) c x
      .ok (.inl ⟨c, s.union.push item, s.stack⟩)

/-- Steps through a class to its end. -/
def classLoop (free : Bool) :
    Nat → ClassState → Except Fault ((Span × Bool × ClassNode) × Cursor)
  | 0, s => fail .classUnclosed (openSpan s.cursor.place s.stack)
  | fuel + 1, s => do
    match ← classStep free s with
    | .inl s => classLoop free fuel s
    | .inr r => .ok r

/-- A bracketed class; the cursor is at its opening bracket. -/
def readClass (free : Bool) (c : Cursor) : Except Fault (Node × Cursor) := do
  let ((span, negated, body), c) ←
    classLoop free (c.rest.length + 1) ⟨c, ⟨c.place, []⟩, []⟩
  .ok (.bracketed span negated body, c)

end TextSieve.Regex.Parse
