import TextSieve.Regex.Expr
import TextSieve.Text.Basic

/-!
Searching a text for an expression. Sets of places in the text are numbers whose bit `i` stands for
the place before character `i`. An expression maps a set of places to the set of the places where
its matches end; a text contains a match when something is left of the set of all places.
-/

namespace TextSieve.Regex

/-- What a leaf does to a set of places in one text. -/
inductive Move where
  /-- Goes from the given places to the next place. -/
  | step (places : Nat)
  /-- Stays at the given places. -/
  | guard (places : Nat)

/-- The number whose lowest bit is given. -/
def consBit (b : Bool) (n : Nat) : Nat := 2 * n + b.toNat

/-- The places before the characters of a set. -/
def placesOf (s : CharSet) : Text → Nat
  | [] => 0
  | c :: t => consBit (s.contains c) (placesOf s t)

/-- The places where a condition holds, in a text that follows `before`, read backwards. -/
def placesWhere (l : Look) (before : Text) : Text → Nat
  | [] => consBit (l.holds before []) 0
  | c :: t => consBit (l.holds before (c :: t)) (placesWhere l (c :: before) t)

/-- What a leaf does in a text. -/
def Leaf.move (text : Text) : Leaf → Move
  | chars s => .step (placesOf s text)
  | look l => .guard (placesWhere l [] text)

/-- Where a leaf leads from a set of places. -/
def Move.apply : Move → Nat → Nat
  | step m, s => (s &&& m) <<< 1
  | guard m, s => s &&& m

/-- Applies a function a number of times; it stops early where nothing changes any more. -/
def iterate (f : Nat → Nat) : Nat → Nat → Nat
  | 0, s => s
  | n + 1, s =>
    let t := f s
    if t = s then s else iterate f n t

/-- Adds what a function reaches from the places that were new in the round before, for a number of
rounds at most. -/
def spread (f : Nat → Nat) : Nat → Nat → Nat → Nat
  | 0, seen, _ => seen
  | n + 1, seen, new =>
    let t := f new
    let fresh := t ^^^ (t &&& seen)
    if fresh = 0 then seen else spread f n (seen ||| fresh) fresh

/-- Where an expression leads from a set of places; `size` is the number of places. -/
def Expr.run (size : Nat) : Expr Move → Nat → Nat
  | empty, s => s
  | leaf m, s => m.apply s
  | cat a b, s => b.run size (a.run size s)
  | alt a b, s => a.run size s ||| b.run size s
  | rep e min max, s =>
    let t := iterate (e.run size) min s
    match max with
    | none => spread (e.run size) size t t
    | some m => spread (e.run size) (m - min) t t
  | capture e, s => e.run size s

/-- Every place in a text. -/
def allPlaces (text : Text) : Nat := Nat.pow 2 (text.length + 1) - 1

/-- Some part of the text matches the expression. -/
def Expr.search (e : Expr Leaf) (text : Text) : Bool :=
  (e.map (Leaf.move text)).run (text.length + 1) (allPlaces text) != 0

end TextSieve.Regex
