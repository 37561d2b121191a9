import TextSieve.Regex.Expr

/-!
Simplified expressions. A pattern is simplified while its meaning is put together from the parts:
sequences in sequences and choices in choices are opened, characters in a row become one literal, a
choice between single characters or between sets becomes one set, and what all branches of a choice
begin with is taken out of it.
-/

namespace TextSieve.Regex

/-- Simplified expressions. A set knows whether it is one of Unicode, and a repetition whether it is
greedy: neither changes what matches, but forms that differ in it are different. -/
inductive Form where
  | empty
  | literal (t : Text)
  | chars (unicode : Bool) (s : CharSet)
  | look (l : Look)
  | rep (sub : Form) (min : Nat) (max : Option Nat) (greedy : Bool)
  | capture (sub : Form)
  | concat (parts : List Form)
  | alt (branches : List Form)

namespace Form

mutual

/-- No match has a character in it. -/
def alwaysEmpty : Form → Bool
  | empty => true
  | literal t => t.isEmpty
  | chars _ _ => false
  | look _ => true
  | rep f _ max _ => max.isSome && f.alwaysEmpty
  | capture f => f.alwaysEmpty
  | concat fs => allEmpty fs
  | alt fs => allEmpty fs

/-- No match of any of the forms has a character in it. -/
def allEmpty : List Form → Bool
  | [] => true
  | f :: fs => f.alwaysEmpty && allEmpty fs

end

mutual

/-- The forms are the same. Groups that capture never are, since each has a number of its own. -/
def same : Form → Form → Bool
  | empty, empty => true
  | literal s, literal t => s == t
  | chars u s, chars v t => u == v && s == t
  | look k, look l => k == l
  | rep f m n g, rep f' m' n' g' => same f f' && m == m' && n == n' && g == g'
  | concat fs, concat gs => sameAll fs gs
  | alt fs, alt gs => sameAll fs gs
  | _, _ => false

/-- The forms of two lists are the same, one by one. -/
def sameAll : List Form → List Form → Bool
  | [], [] => true
  | f :: fs, g :: gs => same f g && sameAll fs gs
  | _, _ => false

end

/-! ### Sets -/

/-- The only character of a set. -/
def single? (s : CharSet) : Option Char :=
  match s.flips with
  | [a, b] => if b = a + 1 && (Char.ofNat a).toNat = a then some (Char.ofNat a) else none
  | _ => none

/-- One character of a set. -/
def ofSet (unicode : Bool) (s : CharSet) : Form :=
  match single? s with
  | some c => literal [c]
  | none => chars (unicode && !s.isEmpty) s

/-! ### Sequences -/

/-- The forms that a form is a sequence of. -/
def parts : Form → List Form
  | concat fs => fs
  | f => [f]

/-- Puts a form in front of a sequence. -/
def push (f : Form) (fs : List Form) : List Form :=
  match f, fs with
  | empty, fs => fs
  | literal s, literal t :: fs => literal (s ++ t) :: fs
  | f, fs => f :: fs

/-- One form after the other. -/
def sequence (fs : List Form) : Form :=
  match (fs.flatMap parts).foldr push [] with
  | [] => empty
  | [f] => f
  | fs => concat fs

/-! ### Repetitions -/

/-- A number of rounds. More than one round makes no difference where all matches are empty. -/
def repeated (f : Form) (min : Nat) (max : Option Nat) (greedy : Bool) : Form :=
  let (min, max) :=
    if f.alwaysEmpty then (Nat.min min 1, some ((max.map (Nat.min · 1)).getD 1)) else (min, max)
  if min = 0 && max = some 0 then empty
  else if min = 1 && max = some 1 then f
  else rep f min max greedy

/-! ### Choices -/

/-- The forms that a form is a choice between. -/
def branches : Form → List Form
  | alt fs => fs
  | f => [f]

/-- The set of a literal with one character. -/
def letter? : Form → Option CharSet
  | literal [c] => some (.single c)
  | _ => none

/-- The set of a set. -/
def set? : Form → Option CharSet
  | chars _ s => some s
  | _ => none

/-- One form or the other; single characters and sets are put together, but not with each other. -/
def join (fs : List Form) : Form :=
  match fs.flatMap branches with
  | [f] => f
  | fs =>
    match (fs.mapM letter?).or (fs.mapM set?) with
    | some ss => ofSet true (ss.foldr .union .empty)
    | none => alt fs

/-- The forms that a sequence begins with; what is no sequence has none. -/
def inner : Form → List Form
  | concat fs => fs
  | _ => []

/-- What two lists begin with. -/
def sharedPrefix : List Form → List Form → List Form
  | f :: fs, g :: gs => if same f g then f :: sharedPrefix fs gs else []
  | _, _ => []

/-- What all forms begin with. -/
def commonPrefix : List Form → List Form
  | [] => []
  | f :: fs => fs.foldl (fun p g => sharedPrefix p g.inner) f.inner

/-- One form or the other, behind what all of them begin with. Nothing more is taken out of what is
left: it would have been taken out here, or out of the branch that it stands in when that was put
together. -/
def choice (fs : List Form) : Form :=
  let fs := fs.flatMap branches
  match commonPrefix fs with
  | [] => join fs
  | p => sequence (p ++ [join (fs.map fun f => sequence (f.inner.drop p.length))])

/-! ### Expressions -/

mutual

/-- The expression to search for. -/
def expr : Form → Expr Leaf
  | empty => .empty
  | literal t => .catAll (t.map fun c => .leaf (.chars (.single c)))
  | chars _ s => .leaf (.chars s)
  | look l => .leaf (.look l)
  | rep f min max _ => .rep f.expr min max
  | capture f => .capture f.expr
  | concat fs => .catAll (exprs fs)
  | alt fs => .altAll (exprs fs)

/-- The expressions to search for, one by one. -/
def exprs : List Form → List (Expr Leaf)
  | [] => []
  | f :: fs => f.expr :: exprs fs

end

end Form

end TextSieve.Regex
