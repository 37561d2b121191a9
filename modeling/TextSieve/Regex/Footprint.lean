import TextSieve.Regex.Form

/-!
The memory that a pattern takes when it is compiled to two automata over bytes, one for each
direction, without building them. A state takes 32 bytes, a transition by a range of bytes 8 more,
and a choice 4 for each branch; a repetition is unrolled, and a choice between literals is a tree of
their bytes.
-/

namespace TextSieve.Regex.Footprint

def stateSize : Nat := 32
def transitionSize : Nat := 8
def branchSize : Nat := 4

/-! ### Byte sequences of a set of characters -/

/-- A sequence of byte ranges. -/
abbrev ByteSeq := List (Nat × Nat)

/-- The bytes of a code point in UTF-8, when it takes `n` of them. -/
def encode (n c : Nat) : List Nat :=
  match n with
  | 1 => [c]
  | 2 => [0xC0 + c / 0x40, 0x80 + c % 0x40]
  | 3 => [0xE0 + c / 0x1000, 0x80 + c / 0x40 % 0x40, 0x80 + c % 0x40]
  | _ => [0xF0 + c / 0x40000, 0x80 + c / 0x1000 % 0x40, 0x80 + c / 0x40 % 0x40, 0x80 + c % 0x40]

/-- Splits a range of code points with `n` bytes into ranges that are products of byte ranges. The
last `6 * k` bits of both ends are looked at, for `k` from one on. -/
def splitRange (n : Nat) : Nat → Nat → Nat → Nat → List ByteSeq
  | 0, _, a, b => [(encode n a).zip (encode n b)]
  | fuel + 1, k, a, b =>
    let unit := Nat.pow 2 (6 * k)
    if n ≤ k || a / unit == b / unit then
      if n ≤ k then [(encode n a).zip (encode n b)] else splitRange n fuel (k + 1) a b
    else if a % unit ≠ 0 then
      let m := a / unit * unit + unit - 1
      splitRange n fuel 1 a m ++ splitRange n fuel 1 (m + 1) b
    else if b % unit ≠ unit - 1 then
      let m := b / unit * unit - 1
      splitRange n fuel 1 a m ++ splitRange n fuel 1 (m + 1) b
    else splitRange n fuel (k + 1) a b

/-- The ranges of code points that take one, two, three and four bytes; surrogates take none. -/
def byteLengths : List (Nat × Nat × Nat) :=
  [(1, 0, 0x7F), (2, 0x80, 0x7FF), (3, 0x800, 0xD7FF), (3, 0xE000, 0xFFFF),
    (4, 0x10000, 0x10FFFF)]

/-- The byte sequences of a set of characters. -/
def sequences (s : CharSet) : List ByteSeq :=
  s.ranges.flatMap fun r =>
    byteLengths.flatMap fun (n, lo, hi) =>
      let a := max r.1 lo
      let b := min r.2 hi
      if a ≤ b then splitRange n 24 1 a b else []

/-- A tree of byte ranges; `stop` ends every sequence. -/
inductive ByteTree where
  | stop
  | node (edges : List ((Nat × Nat) × ByteTree))

/-- Groups sequences by their first range, neighbours only. -/
def groupHeads : List ByteSeq → List ((Nat × Nat) × List ByteSeq)
  | [] => []
  | [] :: ss => groupHeads ss
  | (r :: rs) :: ss =>
    match groupHeads ss with
    | (q, qs) :: gs => if q = r then (q, rs :: qs) :: gs else (r, [rs]) :: (q, qs) :: gs
    | [] => [(r, [rs])]

/-- The code of a tree and the codes of the nodes in it; equal trees have equal codes. -/
def treeCodes : Nat → List ByteSeq → List Nat × List (List Nat)
  | 0, _ => ([0], [])
  | depth + 1, ss =>
    let groups := groupHeads ss
    if groups.isEmpty then ([0], [])
    else
      let parts := groups.map fun g => (g.1, treeCodes depth g.2)
      let code := 1 :: groups.length :: parts.flatMap fun p => p.1.1 :: p.1.2 :: p.2.1
      (code, code :: parts.flatMap fun p => p.2.2)

/-- The members of a list, each once. -/
def distinct (codes : List (List Nat)) : List (List Nat) :=
  let sorted := codes.mergeSort (fun a b => !decide (b < a))
  sorted.foldr (fun c acc => if acc.head? == some c then acc else c :: acc) []

/-- A class in the forward automaton: equal ends of sequences are shared. -/
def forwardClass (s : CharSet) : Nat :=
  let nodes := distinct (treeCodes 5 (sequences s)).2
  nodes.foldl (fun n c => n + (stateSize + transitionSize * (c.drop 1).headD 0)) stateSize

/-- The beginnings of a sequence. -/
def beginnings (s : ByteSeq) : List (List Nat) :=
  (List.range s.length).map fun i => (s.take (i + 1)).flatMap fun r => [r.1, r.2]

/-- A class in the backward automaton: equal beginnings of sequences are shared. -/
def backwardClass (s : CharSet) : Nat :=
  let ss := sequences s
  2 * stateSize + branchSize * ss.length + stateSize * (distinct (ss.flatMap beginnings)).length

/-- One character of a set. -/
def classSize (backward : Bool) (s : CharSet) : Nat :=
  if s.isAscii then 2 * stateSize + transitionSize * s.ranges.length
  else if backward then backwardClass s
  else forwardClass s

/-! ### Choices between literals -/

/-- A tree of the bytes of literals: from one place, bytes lead on to other trees, and marks tell
that literals end there. Edges that came after a mark stand before it, and do not share a byte with
those that came earlier. -/
inductive Trie where
  | nil
  | mark (rest : Trie)
  | edge (byte : UInt8) (child rest : Trie)

namespace Trie

/-- Follows a byte, by an edge that is there or by a new one. -/
def follow (b : UInt8) (f : Trie → Trie) : Trie → Trie
  | edge c child rest => if c = b then edge c (f child) rest else edge c child (follow b f rest)
  | t => edge b (f nil) t

/-- Adds a literal. A leaf is not marked twice. -/
def add : List UInt8 → Trie → Trie
  | [], mark nil => mark nil
  | [], t => mark t
  | b :: bs, t => follow b (add bs) t

/-- No byte leads on. -/
def isLeaf : Trie → Bool
  | nil => true
  | mark rest => rest.isLeaf
  | edge .. => false

/-- The edges between two marks. -/
def runSize : Nat → Nat
  | 0 => 0
  | 1 => branchSize + stateSize
  | n + 2 => branchSize + stateSize + transitionSize * (n + 2)

/-- The bytes that a tree takes but for its root; `run` edges have come since the last mark. -/
def size (run : Nat) : Trie → Nat
  | nil => runSize run
  | mark rest => runSize run + branchSize + size 0 rest
  | edge _ child rest =>
    (if child.isLeaf then 0 else stateSize + size 0 child) + size (run + 1) rest

end Trie

/-- The bytes of a text, in the direction of an automaton. -/
def bytesOf (backward : Bool) (t : Text) : List UInt8 :=
  let bytes := t.flatMap String.utf8EncodeChar
  if backward then bytes.reverse else bytes

/-- One literal of several. -/
def literalsSize (backward : Bool) (ts : List Text) : Nat :=
  let trie := ts.foldl (fun trie t => trie.add (bytesOf backward t)) Trie.nil
  2 * stateSize + trie.size 0

/-- The text of a literal. -/
def literal? : Form → Option Text
  | .literal t => some t
  | _ => none

/-! ### Forms -/

mutual

/-- The least number of characters in a match; unknown where a set is empty. -/
def minLength : Form → Option Nat
  | .empty => some 0
  | .literal t => some t.length
  | .chars _ s => if s.isEmpty then none else some 1
  | .look _ => some 0
  | .rep f min _ _ => (minLength f).map (min * ·)
  | .capture f => minLength f
  | .concat fs => totalLength fs
  | .alt fs => leastLength fs

def totalLength : List Form → Option Nat
  | [] => some 0
  | f :: fs => do some ((← minLength f) + (← totalLength fs))

def leastLength : List Form → Option Nat
  | [] => none
  | [f] => minLength f
  | f :: fs => do some (Nat.min (← minLength f) (← leastLength fs))

end

/-- A repetition of something that takes `sub` bytes; `full` tells that each round is known to have
a character in it. -/
def repSize (sub : Nat) (full : Bool) (min : Nat) : Option Nat → Nat
  | none =>
    if 0 < min then min * sub + stateSize + 2 * branchSize
    else if full then sub + stateSize + 2 * branchSize
    else sub + 3 * stateSize + 4 * branchSize
  | some max =>
    if min = 0 && max = 1 then sub + 2 * stateSize + 2 * branchSize
    else if min = max then min * sub
    else
      (if min = 0 then stateSize else min * sub) + stateSize +
        (max - min) * (sub + stateSize + 2 * branchSize)

mutual

/-- The bytes that a form takes in one automaton; only the forward one has states for captures. -/
def size (backward : Bool) : Form → Nat
  | .empty => stateSize
  | .literal t => stateSize * t.byteSize
  | .chars _ s => classSize backward s
  | .look _ => stateSize
  | .rep f min max _ => repSize (size backward f) ((minLength f).any (0 < ·)) min max
  | .capture f => size backward f + if backward then 0 else 2 * stateSize
  | .concat fs => sizes backward fs
  | .alt fs =>
    match fs.mapM literal? with
    | some ts => literalsSize backward ts
    | none => 2 * stateSize + branchSize * fs.length + sizes backward fs

/-- The bytes that some forms take together. -/
def sizes (backward : Bool) : List Form → Nat
  | [] => 0
  | f :: fs => size backward f + sizes backward fs

end

mutual

/-- Every match begins where the text does or, in the other direction, ends where it does, as far
as the conditions at that end tell. -/
def anchored (backward : Bool) : Form → Bool
  | .look l => l = if backward then .stop else .start
  | .rep f min _ _ => 0 < min && anchored backward f
  | .capture f => anchored backward f
  | .concat fs => anySide backward fs
  | .alt fs => allSides backward fs
  | _ => false

/-- A sequence is anchored by a part with nothing but conditions on that side of it. -/
def anySide (backward : Bool) : List Form → Bool
  | [] => false
  | f :: fs =>
    if backward then anySide backward fs || (Form.allEmpty fs && anchored backward f)
    else anchored backward f || (f.alwaysEmpty && anySide backward fs)

def allSides (backward : Bool) : List Form → Bool
  | [] => true
  | f :: fs => anchored backward f && allSides backward fs

end

/-- States around a form: the loop that looks for a beginning, if there is one to look for, the
outermost capture, and the end. -/
def frameSize (backward : Bool) (f : Form) : Nat :=
  (if anchored backward f then stateSize else 3 * stateSize + transitionSize + 2 * branchSize) +
    stateSize + if backward then 0 else 2 * stateSize

/-- The bytes that one automaton takes. -/
def total (backward : Bool) (f : Form) : Nat := size backward f + frameSize backward f

/-- So many literals are searched for by other means than the two automata. -/
def manyLiterals : Nat := 3000

/-- The form is a choice between many literals. -/
def isDictionary : Form → Bool
  | .alt fs => (fs.mapM literal?).any (manyLiterals ≤ ·.length)
  | _ => false

/-- Both automata take at most `limit` bytes, if they are needed. -/
def fits (limit : Nat) (f : Form) : Bool :=
  isDictionary f || (total false f ≤ limit && total true f ≤ limit)

end TextSieve.Regex.Footprint
