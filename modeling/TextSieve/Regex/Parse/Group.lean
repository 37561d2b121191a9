import TextSieve.Regex.Parse.Atom
import TextSieve.Regex.Unicode.Letters

/-!
Openings of groups: plain groups, named groups, and groups or directives with flags.
-/

namespace TextSieve.Regex.Parse

/-- What an opening parenthesis begins. -/
inductive Opening where
  /-- A group that captures, with its name and the place of the name. -/
  | capture (name : Option (Text × Span))
  /-- A group with flags of its own. -/
  | group (flags : Flags)
  /-- Flags for what follows. -/
  | directive (flags : Flags)

/-- Characters of a group name; fewer may come first. -/
def isNameChar (first : Bool) (c : Char) : Bool :=
  c = '_' || Unicode.alphabeticSet.contains c ||
    (!first && (c = '.' || c = '[' || c = ']' || Unicode.numericSet.contains c))

/-- A group name up to its closing bracket. -/
def readNameRun (start : Place) : Nat → Cursor → Except Fault (Text × Cursor)
  | 0, c => .ok ([], c)
  | fuel + 1, c =>
    match c.char? with
    | none => .ok ([], c)
    | some x =>
      if x = '>' then .ok ([], c)
      else if isNameChar (c.place == start) x then do
        let (xs, c) ← readNameRun start fuel c.next
        .ok (x :: xs, c)
      else fail .groupNameChar c.charSpan

/-- A group name; `names` are the names before it. -/
def readName (names : List (Text × Span)) (c : Cursor) :
    Except Fault ((Text × Span) × Cursor) := do
  let start := c.place
  if c.atEnd then fail .groupNameUnfinished (.point start)
  let (name, e) ← readNameRun start c.rest.length c
  if e.atEnd then fail .groupNameUnfinished (.point e.place)
  if name.isEmpty then fail .groupNameEmpty (.point start)
  let span := e.spanFrom start
  match names.lookup name with
  | some earlier => .error ⟨.groupNameDuplicate, span, some earlier⟩
  | none => .ok ((name, span), e.next)

/-- The place of an earlier item among flags. -/
def findFlag (item : Option Flag) (seen : List (Option Flag × Span)) : Option Span :=
  seen.lookup item

/-- Flags up to the colon or parenthesis behind them; `seen` are the items before, last first. -/
def readFlags : Nat → List (Option Flag × Span) → Cursor → Except Fault (Flags × Cursor)
  | 0, _, c => fail .flagUnfinished (.point c.place)
  | fuel + 1, seen, c =>
    match c.char? with
    | none => fail .flagUnfinished (.point c.place)
    | some x =>
      if x = ':' || x = ')' then
        match seen with
        | (none, span) :: _ => fail .flagDanglingNegation span
        | _ => .ok (seen.reverse.map (·.1), c)
      else do
        let item ←
          if x = '-' then pure none
          else
            match Flag.ofChar? x with
            | some f => pure (some f)
            | none => fail .flagUnknown c.charSpan
        match findFlag item seen with
        | some earlier =>
          .error ⟨if item.isNone then .flagRepeatedNegation else .flagDuplicate, c.charSpan,
            some earlier⟩
        | none => readFlags fuel ((item, c.charSpan) :: seen) c.next

/-- Words that begin look-around. -/
def lookAroundWords : List Text := ["?=", "?!", "?<=", "?<!"]

/-- The opening of a group; the cursor is at the parenthesis. -/
def readOpeningGroup (free : Bool) (names : List (Text × Span)) (c : Cursor) :
    Except Fault (Opening × Cursor) := do
  let span := c.charSpan
  let c := c.advance free
  if let some e := lookAroundWords.findSome? (c.eat? ·) then
    fail .lookAround (e.spanFrom span.start)
  else if let some e := (c.eat? "?P<").or (c.eat? "?<") then
    let (name, e) ← readName names e
    .ok (.capture (some name), e)
  else if let some e := c.eat? "?" then
    if e.atEnd then fail .groupUnclosed span
    let (flags, e) ← readFlags (e.rest.length + 1) [] e
    if e.char? = some ')' then
      if flags.isEmpty then fail .nothingToRepeat (.point c.place)
      .ok (.directive flags, e.next)
    else .ok (.group flags, e.next)
  else .ok (.capture none, c)

end TextSieve.Regex.Parse
