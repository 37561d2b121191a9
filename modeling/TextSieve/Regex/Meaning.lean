import TextSieve.Regex.Property
import TextSieve.Regex.Fold
import TextSieve.Regex.Form

/-!
The meaning of a pattern. Flags are taken up from left to right and hold to the end of the group
that they stand in. Only texts are searched, so a class without Unicode must stay within ASCII.
-/

namespace TextSieve.Regex.Meaning

/-- The flags in force. -/
structure Modes where
  ignoreCase : Bool
  multiLine : Bool
  dotAll : Bool
  swapGreed : Bool
  unicode : Bool
  crlf : Bool

/-- The flags in force at the beginning of a pattern. -/
def Modes.initial : Modes := ⟨false, false, false, false, true, false⟩

/-- Takes up flags. -/
def Modes.set (m : Modes) (fs : Flags) : Modes where
  ignoreCase := (fs.state .ignoreCase).getD m.ignoreCase
  multiLine := (fs.state .multiLine).getD m.multiLine
  dotAll := (fs.state .dotAll).getD m.dotAll
  swapGreed := (fs.state .swapGreed).getD m.swapGreed
  unicode := (fs.state .unicode).getD m.unicode
  crlf := (fs.state .crlf).getD m.crlf

def fault {α : Type} (flaw : Flaw) (span : Span) : Except Fault α := .error (.of flaw span)

/-! ### Sets of characters -/

/-- Closes a set under change of case where case is ignored. -/
def foldCase (m : Modes) (s : CharSet) : CharSet :=
  if m.ignoreCase then if m.unicode then Fold.unicode s else Fold.ascii s else s

/-- Folds case, then negates; without Unicode only ASCII may be left. -/
def finishSet (m : Modes) (span : Span) (negated : Bool) (s : CharSet) :
    Except Fault CharSet :=
  let s := foldCase m s
  let s := if negated then s.compl else s
  if m.unicode || s.isAscii then .ok s else fault .notUtf8 span

/-- The characters of a class of ASCII characters. -/
def asciiSet : AsciiClass → CharSet
  | .alnum => .ofRanges [(0x30, 0x39), (0x41, 0x5A), (0x61, 0x7A)]
  | .alpha => .ofRanges [(0x41, 0x5A), (0x61, 0x7A)]
  | .ascii => .range 0 0x7F
  | .blank => .ofRanges [(0x09, 0x09), (0x20, 0x20)]
  | .cntrl => .ofRanges [(0x00, 0x1F), (0x7F, 0x7F)]
  | .digit => .range 0x30 0x39
  | .graph => .range 0x21 0x7E
  | .lower => .range 0x61 0x7A
  | .print => .range 0x20 0x7E
  | .punct => .ofRanges [(0x21, 0x2F), (0x3A, 0x40), (0x5B, 0x60), (0x7B, 0x7E)]
  | .space => .ofRanges [(0x09, 0x0D), (0x20, 0x20)]
  | .upper => .range 0x41 0x5A
  | .word => .ofRanges [(0x30, 0x39), (0x41, 0x5A), (0x5F, 0x5F), (0x61, 0x7A)]
  | .xdigit => .ofRanges [(0x30, 0x39), (0x41, 0x46), (0x61, 0x66)]

/-- The characters of a class with a one-letter escape. -/
def shortSet (unicode : Bool) : ShortClass → CharSet
  | .digit => if unicode then Property.category "nd" else asciiSet .digit
  | .space =>
    if unicode then (Property.lookup Unicode.properties "whitespace").getD .empty
    else asciiSet .space
  | .word => if unicode then Unicode.wordSet else asciiSet .word

/-- The characters of a predefined class. -/
def namedSet (m : Modes) : NamedClass → Except Fault CharSet
  | .short span kind negated =>
    let s := shortSet m.unicode kind
    let s := if negated then s.compl else s
    if m.unicode || s.isAscii then .ok s else fault .notUtf8 span
  | .ascii span kind negated => finishSet m span negated (asciiSet kind)
  | .property span query negated =>
    if m.unicode then
      match Property.resolve query with
      | .ok s =>
        let unequal :=
          match query with
          | .value _ _ unequal => unequal
          | .name _ => false
        finishSet m span (negated != unequal) s
      | .error flaw => fault flaw span
    else fault .needsUnicode span

/-- A literal of a class without Unicode has to be ASCII. -/
def classChar (m : Modes) (l : Literal) : Except Fault Nat :=
  if m.unicode || l.char.toNat < 128 then .ok l.char.toNat
  else fault (if l.byte then .notUtf8 else .needsUnicode) l.span

/-- Combines two sets. -/
def combineSets : SetOp → CharSet → CharSet → CharSet
  | .intersection => CharSet.inter
  | .difference => CharSet.diff
  | .symmetricDifference => CharSet.symmDiff

mutual

/-- The characters of what stands in a bracketed class. -/
def classSet (m : Modes) : ClassNode → Except Fault CharSet
  | .empty _ => .ok .empty
  | .literal l => do
    let n ← classChar m l
    .ok (.range n n)
  | .range _ first last => do
    let a ← classChar m first
    let b ← classChar m last
    .ok (.range a b)
  | .named c => namedSet m c
  | .bracketed span negated body => do finishSet m span negated (← classSet m body)
  | .union _ items => unionSet m items
  | .op _ kind lhs rhs => do
    let a ← classSet m lhs
    let b ← classSet m rhs
    .ok (combineSets kind (foldCase m a) (foldCase m b))

/-- The characters of some item. -/
def unionSet (m : Modes) : List ClassNode → Except Fault CharSet
  | [] => .ok .empty
  | x :: xs => do
    let a ← classSet m x
    let b ← unionSet m xs
    .ok (a.union b)

end

/-! ### Forms -/

/-- The condition that an assertion stands for. -/
def lookOf (m : Modes) : Assertion → Look
  | .startLine => if m.multiLine then if m.crlf then .lineStartCrlf else .lineStart else .start
  | .endLine => if m.multiLine then if m.crlf then .lineStopCrlf else .lineStop else .stop
  | .startText => .start
  | .endText => .stop
  | .wordBoundary => .boundary m.unicode
  | .notWordBoundary => .notBoundary m.unicode
  | .wordStart => .wordStart m.unicode
  | .wordEnd => .wordStop m.unicode
  | .wordStartHalf => .wordStartHalf m.unicode
  | .wordEndHalf => .wordStopHalf m.unicode

/-- The characters that a dot stands for. -/
def dotSet (m : Modes) : CharSet :=
  if m.dotAll then CharSet.compl .empty
  else if m.crlf then CharSet.compl (.ofRanges [(0x0A, 0x0A), (0x0D, 0x0D)])
  else CharSet.compl (.range 0x0A 0x0A)

/-- A literal, and what differs from it in case where case is ignored. -/
def literalSet (m : Modes) (l : Literal) : Except Fault CharSet :=
  if !m.unicode && l.byte && 128 ≤ l.char.toNat then fault .notUtf8 l.span
  else .ok (foldCase m (.single l.char))

/-- Flags hold to the end of a group. -/
def closeGroup (m : Modes) (r : Except Fault (Form × Modes)) (f : Form → Form) :
    Except Fault (Form × Modes) := r.map fun x => (f x.1, m)

mutual

/-- The form that a node stands for, and the flags in force behind it. -/
def node (m : Modes) : Node → Except Fault (Form × Modes)
  | .empty _ => .ok (.empty, m)
  | .flags _ fs => .ok (.empty, m.set fs)
  | .literal l => do .ok (.ofSet m.unicode (← literalSet m l), m)
  | .dot span =>
    if m.unicode then .ok (.ofSet true (dotSet m), m) else fault .notUtf8 span
  | .assertion _ kind => .ok (.look (lookOf m kind), m)
  | .named c => do .ok (.ofSet m.unicode (← namedSet m c), m)
  | .bracketed span negated body => do
    let s ← classSet m body
    .ok (.ofSet m.unicode (← finishSet m span negated s), m)
  | .repeated _ sub min max greedy => do
    let (f, m) ← node m sub
    .ok (f.repeated min max (greedy != m.swapGreed), m)
  | .capture _ sub => closeGroup m (node m sub) .capture
  | .group _ fs sub => closeGroup m (node (m.set fs) sub) id
  | .alternation _ branches => do
    let (fs, m) ← nodes m branches
    .ok (.choice fs, m)
  | .concat _ parts => do
    let (fs, m) ← nodes m parts
    .ok (.sequence fs, m)

/-- The forms that nodes stand for, one after the other. -/
def nodes (m : Modes) : List Node → Except Fault (List Form × Modes)
  | [] => .ok ([], m)
  | x :: xs => do
    let (f, m) ← node m x
    let (fs, m) ← nodes m xs
    .ok (f :: fs, m)

end

/-- The form that a pattern stands for. -/
def ofNode (x : Node) : Except Fault Form := (node .initial x).map (·.1)

end TextSieve.Regex.Meaning
