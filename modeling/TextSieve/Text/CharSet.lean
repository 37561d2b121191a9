/-!
Sets of code points, written as the increasing list of the points where membership flips.
A point belongs to the set when an odd number of flips lie at or below it; a Boolean operation
on two sets is one sweep over their flips.
-/

namespace TextSieve

/-- A set of code points. -/
@[ext]
structure CharSet where
  /-- The points where membership flips. -/
  flips : List Nat
  /-- The points are in order. -/
  sorted : flips.Pairwise (· ≤ ·)
  deriving DecidableEq

namespace CharSet

/-- Membership flips at every point up to the one asked for. -/
def containsFrom (n : Nat) : List Nat → Bool
  | [] => false
  | p :: ps => if p ≤ n then !containsFrom n ps else false

/-- The code point belongs to the set. -/
def has (s : CharSet) (n : Nat) : Bool := containsFrom n s.flips

/-- The character belongs to the set. -/
def contains (s : CharSet) (c : Char) : Bool := s.has c.toNat

/-- The points of a list are in order. -/
def inOrder : List Nat → Bool
  | [] => true
  | [_] => true
  | p :: q :: ps => p ≤ q && inOrder (q :: ps)

theorem sorted_of_inOrder {ps : List Nat} (h : inOrder ps = true) : ps.Pairwise (· ≤ ·) := by
  fun_induction inOrder ps with
  | case1 => exact .nil
  | case2 p => exact List.pairwise_singleton ..
  | case3 p q ps ih =>
    rw [Bool.and_eq_true, decide_eq_true_iff] at h
    have hq := ih h.2
    refine List.pairwise_cons.2 ⟨fun r hr => ?_, hq⟩
    rcases List.mem_cons.1 hr with rfl | hr
    · exact h.1
    · exact Nat.le_trans h.1 ((List.pairwise_cons.1 hq).1 r hr)

/-- The set without points. -/
def empty : CharSet := ⟨[], .nil⟩

/-- The points from `a` to `b`, both included. -/
def range (a b : Nat) : CharSet :=
  if h : a ≤ b then ⟨[a, b + 1], List.pairwise_pair.2 (Nat.le_succ_of_le h)⟩ else empty

/-- One character. -/
def single (c : Char) : CharSet := range c.toNat c.toNat

/-- The points outside the set. -/
def compl : CharSet → CharSet
  | ⟨0 :: ps, h⟩ => ⟨ps, (List.pairwise_cons.1 h).2⟩
  | ⟨ps, h⟩ => ⟨0 :: ps, List.pairwise_cons.2 ⟨fun _ _ => Nat.zero_le _, h⟩⟩

/-- Writes down the point when the combined membership changes there. -/
def mark (p : Nat) (before after : Bool) (rest : List Nat) : List Nat :=
  if before == after then rest else p :: rest

/-- Sweeps over two lists of flips; `a` and `b` say on which side of each set the sweep is. -/
def sweep (op : Bool → Bool → Bool) (a b : Bool) : List Nat → List Nat → List Nat
  | [], [] => []
  | x :: xs, [] => mark x (op a b) (op (!a) b) (sweep op (!a) b xs [])
  | [], y :: ys => mark y (op a b) (op a (!b)) (sweep op a (!b) [] ys)
  | x :: xs, y :: ys =>
    if x < y then mark x (op a b) (op (!a) b) (sweep op (!a) b xs (y :: ys))
    else if y < x then mark y (op a b) (op a (!b)) (sweep op a (!b) (x :: xs) ys)
    else mark x (op a b) (op (!a) (!b)) (sweep op (!a) (!b) xs ys)
  termination_by xs ys => xs.length + ys.length

section Sweep

variable {p q : Nat} {before after : Bool} {rest : List Nat}
variable {op : Bool → Bool → Bool} {a b : Bool} {xs ys : List Nat}

theorem mem_of_mem_mark (h : q ∈ mark p before after rest) : q = p ∨ q ∈ rest := by
  unfold mark at h
  split at h
  · exact .inr h
  · exact List.mem_cons.1 h

/-- A sweep writes down only points that it comes across. -/
theorem mem_of_mem_sweep (h : p ∈ sweep op a b xs ys) : p ∈ xs ∨ p ∈ ys := by
  fun_induction sweep op a b xs ys with
  | case1 => cases h
  | case2 | case3 | case4 | case5 | case6 => grind [mem_of_mem_mark]

/-- A point that is not above what lies before the sweep is written down in order. -/
theorem sorted_mark_sweep (hx : ∀ q ∈ xs, p ≤ q) (hy : ∀ q ∈ ys, p ≤ q)
    (h : (sweep op a b xs ys).Pairwise (· ≤ ·)) :
    (mark p before after (sweep op a b xs ys)).Pairwise (· ≤ ·) := by
  unfold mark
  split
  · exact h
  · exact List.pairwise_cons.2 ⟨fun q hq => (mem_of_mem_sweep hq).elim (hx q) (hy q), h⟩

theorem le_of_mem_sorted (h : (q :: rest).Pairwise (· ≤ ·)) (hp : p ≤ q) :
    ∀ r ∈ q :: rest, p ≤ r :=
  List.forall_mem_cons.2 ⟨hp, fun _ hr => Nat.le_trans hp (List.rel_of_pairwise_cons h hr)⟩

theorem sorted_sweep (hx : xs.Pairwise (· ≤ ·)) (hy : ys.Pairwise (· ≤ ·)) :
    (sweep op a b xs ys).Pairwise (· ≤ ·) := by
  fun_induction sweep op a b xs ys with
  | case1 => exact .nil
  | case2 _ _ x xs ih =>
    exact sorted_mark_sweep (fun _ => List.rel_of_pairwise_cons hx) (List.forall_mem_nil _)
      (ih hx.of_cons hy)
  | case3 _ _ y ys ih =>
    exact sorted_mark_sweep (List.forall_mem_nil _) (fun _ => List.rel_of_pairwise_cons hy)
      (ih hx hy.of_cons)
  | case4 _ _ x xs y ys h ih =>
    exact sorted_mark_sweep (fun _ => List.rel_of_pairwise_cons hx)
      (le_of_mem_sorted hy (Nat.le_of_lt h)) (ih hx.of_cons hy)
  | case5 _ _ x xs y ys _ h ih =>
    exact sorted_mark_sweep (le_of_mem_sorted hx (Nat.le_of_lt h))
      (fun _ => List.rel_of_pairwise_cons hy) (ih hx hy.of_cons)
  | case6 _ _ x xs y ys _ h ih =>
    exact sorted_mark_sweep (fun _ => List.rel_of_pairwise_cons hx)
      (fun _ hq => Nat.le_trans (Nat.not_lt.1 h) (List.rel_of_pairwise_cons hy hq))
      (ih hx.of_cons hy.of_cons)

end Sweep

/-- Combines two sets point by point; `op false false` has to be false. -/
def combine (op : Bool → Bool → Bool) (s t : CharSet) : CharSet :=
  ⟨sweep op false false s.flips t.flips, sorted_sweep s.sorted t.sorted⟩

def union (s t : CharSet) : CharSet := combine (· || ·) s t
def inter (s t : CharSet) : CharSet := combine (· && ·) s t
def diff (s t : CharSet) : CharSet := combine (fun a b => a && !b) s t
def symmDiff (s t : CharSet) : CharSet := combine (· != ·) s t

/-- The set has no point. -/
def isEmpty (s : CharSet) : Bool := s.flips.isEmpty

/-- Every point of the set lies below the bound. -/
def below (bound : Nat) (s : CharSet) : Bool :=
  s.flips.length % 2 == 0 && s.flips.all (· ≤ bound)

/-- Every point of the set is an ASCII character. -/
def isAscii (s : CharSet) : Bool := s.below 128

/-- Ranges of points from flips, up to the last code point. -/
def rangesOf : List Nat → List (Nat × Nat)
  | [] => []
  | [a] => [(a, 0x10FFFF)]
  | a :: b :: ps => (a, b - 1) :: rangesOf ps

/-- The set as a list of ranges, both ends included. -/
def ranges (s : CharSet) : List (Nat × Nat) := rangesOf s.flips

/-- Adds the singletons of an increasing list of points to a list of flips in the making. -/
def flipsOfSorted : List Nat → List Nat
  | [] => []
  | n :: ns =>
    match flipsOfSorted ns with
    | p :: ps => if p = n then (n :: ps) else if p = n + 1 then n :: ps else n :: (n + 1) :: p :: ps
    | [] => [n, n + 1]

theorem le_of_mem_flipsOfSorted {m p : Nat} {ns : List Nat} (hm : ∀ n ∈ ns, m ≤ n)
    (h : p ∈ flipsOfSorted ns) : m ≤ p := by
  fun_induction flipsOfSorted ns with
  | case1 => cases h
  | case2 | case3 | case4 | case5 =>
    obtain ⟨hn, hns⟩ := List.forall_mem_cons.1 hm
    grind

theorem sorted_flipsOfSorted {ns : List Nat} (h : ns.Pairwise (· ≤ ·)) :
    (flipsOfSorted ns).Pairwise (· ≤ ·) := by
  induction ns with
  | nil => exact .nil
  | cons n ns ih =>
    have hrest := ih h.of_cons
    have hlow : ∀ p ∈ flipsOfSorted ns, n ≤ p := fun p =>
      le_of_mem_flipsOfSorted fun q => List.rel_of_pairwise_cons h
    unfold flipsOfSorted
    split
    · next p ps heq =>
      rw [heq] at hrest hlow
      have hps : ∀ q ∈ ps, n ≤ q := fun q hq => hlow q (List.mem_cons_of_mem _ hq)
      split
      · exact List.pairwise_cons.2 ⟨hps, hrest.of_cons⟩
      · next hne =>
        have hp : n + 1 ≤ p := Nat.lt_of_le_of_ne (hlow p List.mem_cons_self) (Ne.symm hne)
        split
        · exact List.pairwise_cons.2 ⟨hps, hrest.of_cons⟩
        · exact List.pairwise_cons.2 ⟨List.forall_mem_cons.2 ⟨Nat.le_succ n, hlow⟩,
            List.pairwise_cons.2 ⟨le_of_mem_sorted hrest hp, hrest⟩⟩
    · exact List.pairwise_pair.2 (Nat.le_succ n)

theorem sorted_mergeSort (ns : List Nat) : (ns.mergeSort (· ≤ ·)).Pairwise (· ≤ ·) := by
  have h : (ns.mergeSort (· ≤ ·)).Pairwise fun a b => decide (a ≤ b) = true := by
    refine List.pairwise_mergeSort (fun a b c hab hbc => ?_) (fun a b => ?_) ns
    · exact decide_eq_true (Nat.le_trans (of_decide_eq_true hab) (of_decide_eq_true hbc))
    · simpa using Nat.le_total a b
  exact h.imp of_decide_eq_true

/-- The set of the points of a list. -/
def ofList (ns : List Nat) : CharSet :=
  ⟨flipsOfSorted (ns.mergeSort (· ≤ ·)), sorted_flipsOfSorted (sorted_mergeSort ns)⟩

/-- The union of many ranges. -/
def ofRanges (rs : List (Nat × Nat)) : CharSet :=
  rs.foldl (fun s r => s.union (range r.1 r.2)) empty

/-- The value of a digit in base thirty-six. -/
def digit36 (c : Char) : Nat := if c.isDigit then c.toNat - 48 else c.toNat - 87

/-- Reads the distances between flips: numerals in base thirty-six, each ended by a blank. -/
def flipsOfDistances (last acc : Nat) : List Char → List Nat
  | [] => []
  | ' ' :: cs => (last + acc) :: flipsOfDistances (last + acc) 0 cs
  | c :: cs => flipsOfDistances last (acc * 36 + digit36 c) cs

theorem le_of_mem_flipsOfDistances {p last acc : Nat} {cs : List Char}
    (h : p ∈ flipsOfDistances last acc cs) : last ≤ p := by
  fun_induction flipsOfDistances last acc cs with
  | case1 => cases h
  | case2 last acc cs ih =>
    rcases List.mem_cons.1 h with rfl | h
    · exact Nat.le_add_right ..
    · exact Nat.le_trans (Nat.le_add_right ..) (ih h)
  | case3 _ _ _ _ _ ih => exact ih h

theorem sorted_flipsOfDistances {last acc : Nat} {cs : List Char} :
    (flipsOfDistances last acc cs).Pairwise (· ≤ ·) := by
  fun_induction flipsOfDistances last acc cs with
  | case1 => exact .nil
  | case2 _ _ _ ih => exact List.pairwise_cons.2 ⟨fun _ => le_of_mem_flipsOfDistances, ih⟩
  | case3 _ _ _ _ _ ih => exact ih

/-- A set from the distances between its flips, the first one counted from zero. -/
def ofDistances (lines : List String) : CharSet :=
  ⟨flipsOfDistances 0 0 (lines.flatMap String.toList), sorted_flipsOfDistances⟩

end CharSet

end TextSieve
