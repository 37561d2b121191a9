import TextSieve.Text.Basic
import TextSieve.Text.CharSet
import TextSieve.Regex.Unicode.Letters

/-!
What patterns mean: sequences, choices and repetitions of characters from sets and of conditions
on the place.
-/

namespace TextSieve.Regex

/-- A condition on a place between two characters. -/
inductive Look where
  | start
  | stop
  | lineStart
  | lineStop
  | lineStartCrlf
  | lineStopCrlf
  | boundary (unicode : Bool)
  | notBoundary (unicode : Bool)
  | wordStart (unicode : Bool)
  | wordStop (unicode : Bool)
  | wordStartHalf (unicode : Bool)
  | wordStopHalf (unicode : Bool)
  deriving DecidableEq

/-- A word character of ASCII. -/
def isAsciiWord (c : Char) : Bool := c.isAlphanum || c == '_'

/-- A word character. -/
def isWord (unicode : Bool) (c : Char) : Bool :=
  if unicode then Unicode.wordSet.contains c else isAsciiWord c

/-- The first character of a text is a word character. -/
def startsWord (unicode : Bool) : Text → Bool
  | c :: _ => isWord unicode c
  | [] => false

/-- The condition holds between the text before, read backwards, and the text after. -/
def Look.holds (before after : Text) : Look → Bool
  | start => before.isEmpty
  | stop => after.isEmpty
  | lineStart => before.isEmpty || before.head? == some '\n'
  | lineStop => after.isEmpty || after.head? == some '\n'
  | lineStartCrlf =>
    before.isEmpty || before.head? == some '\n' ||
      (before.head? == some '\r' && after.head? != some '\n')
  | lineStopCrlf =>
    after.isEmpty || after.head? == some '\r' ||
      (after.head? == some '\n' && before.head? != some '\r')
  | boundary u => startsWord u before != startsWord u after
  | notBoundary u => startsWord u before == startsWord u after
  | wordStart u => !startsWord u before && startsWord u after
  | wordStop u => startsWord u before && !startsWord u after
  | wordStartHalf u => !startsWord u before
  | wordStopHalf u => !startsWord u after

/-- The smallest expressions: one character of a set, and a condition. -/
inductive Leaf where
  | chars (s : CharSet)
  | look (l : Look)

/-- Expressions over leaves of some kind. Laziness is not part of an expression, since it does not
change whether there is a match. -/
inductive Expr (α : Type) where
  | empty
  | leaf (x : α)
  | cat (a b : Expr α)
  | alt (a b : Expr α)
  | rep (sub : Expr α) (min : Nat) (max : Option Nat)
  | capture (sub : Expr α)

namespace Expr

/-- Replaces the leaves. -/
def map {α β : Type} (f : α → β) : Expr α → Expr β
  | empty => empty
  | leaf x => leaf (f x)
  | cat a b => cat (a.map f) (b.map f)
  | alt a b => alt (a.map f) (b.map f)
  | rep e min max => rep (e.map f) min max
  | capture e => capture (e.map f)

/-- One expression after the other. -/
def catAll {α : Type} : List (Expr α) → Expr α
  | [] => empty
  | [e] => e
  | e :: es => cat e (catAll es)

/-- One expression or the other; no expression at all never matches. -/
def altAll : List (Expr Leaf) → Expr Leaf
  | [] => leaf (.chars .empty)
  | [e] => e
  | e :: es => alt e (altAll es)

end Expr

end TextSieve.Regex
