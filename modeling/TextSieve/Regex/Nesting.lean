import TextSieve.Regex.Syntax
import TextSieve.Regex.Error

/-!
The depth of a pattern. Groups, alternations, sequences, repetitions and classes each open a level;
the first part of the pattern that opens a level beyond the limit is at fault.
-/

namespace TextSieve.Regex.Nesting

/-- Opens a level, if one is left. -/
def enter (left : Nat) (span : Span) (inside : Nat → Except Fault Unit) : Except Fault Unit :=
  match left with
  | 0 => .error (.of .tooDeep span)
  | left + 1 => inside left

mutual

/-- Checks what stands in a bracketed class; `left` levels may be opened. -/
def checkClass (left : Nat) : ClassNode → Except Fault Unit
  | .bracketed span _ body => enter left span fun left => checkClass left body
  | .union span items => enter left span fun left => checkItems left items
  | .op span _ lhs rhs =>
    enter left span fun left => do
      checkClass left lhs
      checkClass left rhs
  | _ => .ok ()

def checkItems (left : Nat) : List ClassNode → Except Fault Unit
  | [] => .ok ()
  | x :: xs => do
    checkClass left x
    checkItems left xs

end

mutual

/-- Checks a pattern; `left` levels may be opened. -/
def checkNode (left : Nat) : Node → Except Fault Unit
  | .bracketed span _ body => enter left span fun left => checkClass left body
  | .repeated span sub _ _ _ => enter left span fun left => checkNode left sub
  | .capture span sub => enter left span fun left => checkNode left sub
  | .group span _ sub => enter left span fun left => checkNode left sub
  | .alternation span branches => enter left span fun left => checkNodes left branches
  | .concat span parts => enter left span fun left => checkNodes left parts
  | _ => .ok ()

def checkNodes (left : Nat) : List Node → Except Fault Unit
  | [] => .ok ()
  | x :: xs => do
    checkNode left x
    checkNodes left xs

end

/-- Checks that a pattern is not too deep. -/
def check (x : Node) : Except Fault Unit := checkNode nestLimit x

end TextSieve.Regex.Nesting
