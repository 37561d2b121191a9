import Mathlib.Data.Nat.Notation
import Mathlib.Tactic.Lemma
import TextSieve.Text.CharSet

/-!
Operations on sets of characters. The sweep over the flips of two sets gives the set of the points
that the operation lets in, whatever operation it is that leaves out what neither set has.
-/

namespace TextSieve.CharSet

variable {n p : ℕ} {ps xs ys : List ℕ} {op : Bool → Bool → Bool} {a b before after : Bool}

lemma containsFrom_cons (hp : p ≤ n) : containsFrom n (p :: ps) = !containsFrom n ps := by
  rw [containsFrom, if_pos hp]

lemma containsFrom_eq_false (h : ∀ p ∈ ps, n < p) : containsFrom n ps = false := by
  cases ps with
  | nil => rfl
  | cons p ps => rw [containsFrom, if_neg (Nat.not_le.2 (h p List.mem_cons_self))]

/-- Past a point, what is written down for it makes up for the change there. -/
lemma xor_containsFrom_mark (hp : p ≤ n) :
    (before ^^ containsFrom n (mark p before after ps)) = (after ^^ containsFrom n ps) := by
  unfold mark
  split
  · next h => rw [eq_of_beq h]
  · next h =>
    rw [containsFrom_cons hp]
    cases before <;> cases after <;> simp_all

/-- Before all points, nothing has changed yet. -/
lemma xor_containsFrom_sweep_of_lt (hx : ∀ p ∈ xs, n < p) (hy : ∀ p ∈ ys, n < p) :
    (op a b ^^ containsFrom n (sweep op a b xs ys)) =
      op (a ^^ containsFrom n xs) (b ^^ containsFrom n ys) := by
  have h : ∀ p ∈ sweep op a b xs ys, n < p := fun p hp =>
    (mem_of_mem_sweep hp).elim (hx p) (hy p)
  rw [containsFrom_eq_false h, containsFrom_eq_false hx, containsFrom_eq_false hy]
  simp

/-- A sweep goes on from the sides it is on. By induction on the sweep; a point past the one that is
asked for has none before it in either list. -/
lemma xor_containsFrom_sweep (hx : xs.Pairwise (· ≤ ·)) (hy : ys.Pairwise (· ≤ ·)) :
    (op a b ^^ containsFrom n (sweep op a b xs ys)) =
      op (a ^^ containsFrom n xs) (b ^^ containsFrom n ys) := by
  have past {q r : ℕ} {qs : List ℕ} (hq : (q :: qs).Pairwise (· ≤ ·)) (hr : r ≤ q)
      (h : ¬ r ≤ n) : ∀ p ∈ q :: qs, n < p :=
    le_of_mem_sorted hq (Nat.lt_of_lt_of_le (Nat.not_le.1 h) hr)
  induction a, b, xs, ys using sweep.induct with
  | case1 => simp [sweep, containsFrom]
  | case2 a b x xs ih =>
    by_cases h : x ≤ n
    · rw [sweep, xor_containsFrom_mark h, ih hx.of_cons hy, containsFrom_cons h]
      simp
    · exact xor_containsFrom_sweep_of_lt (past hx (Nat.le_refl _) h) (List.forall_mem_nil _)
  | case3 a b y ys ih =>
    by_cases h : y ≤ n
    · rw [sweep, xor_containsFrom_mark h, ih hx hy.of_cons, containsFrom_cons h]
      simp
    · exact xor_containsFrom_sweep_of_lt (List.forall_mem_nil _) (past hy (Nat.le_refl _) h)
  | case4 a b x xs y ys hlt ih =>
    by_cases h : x ≤ n
    · rw [sweep, if_pos hlt, xor_containsFrom_mark h, ih hx.of_cons hy, containsFrom_cons h]
      simp
    · exact xor_containsFrom_sweep_of_lt (past hx (Nat.le_refl _) h) (past hy (Nat.le_of_lt hlt) h)
  | case5 a b x xs y ys hle hlt ih =>
    by_cases h : y ≤ n
    · rw [sweep, if_neg hle, if_pos hlt, xor_containsFrom_mark h, ih hx hy.of_cons,
        containsFrom_cons h]
      simp
    · exact xor_containsFrom_sweep_of_lt (past hx (Nat.le_of_lt hlt) h) (past hy (Nat.le_refl _) h)
  | case6 a b x xs y ys hle hge ih =>
    obtain rfl : x = y := Nat.le_antisymm (Nat.not_lt.1 hge) (Nat.not_lt.1 hle)
    by_cases h : x ≤ n
    · rw [sweep, if_neg hle, if_neg hge, xor_containsFrom_mark h, ih hx.of_cons hy.of_cons,
        containsFrom_cons h, containsFrom_cons h]
      simp
    · exact xor_containsFrom_sweep_of_lt (past hx (Nat.le_refl _) h) (past hy (Nat.le_refl _) h)

/-- **Sets are combined point by point.** -/
theorem has_combine (hop : op false false = false) {s t : CharSet} :
    (combine op s t).has n = op (s.has n) (t.has n) := by
  have h : (op false false ^^ containsFrom n (sweep op false false s.flips t.flips)) =
      op (false ^^ containsFrom n s.flips) (false ^^ containsFrom n t.flips) :=
    xor_containsFrom_sweep s.sorted t.sorted
  simpa [hop, has, combine] using h

lemma contains_union {s t : CharSet} {c : Char} :
    (s.union t).contains c = (s.contains c || t.contains c) := has_combine rfl

lemma flips_single (c : Char) : (single c).flips = [c.toNat, c.toNat + 1] := by
  unfold single range
  rw [dif_pos (Nat.le_refl _)]

lemma contains_single {c d : Char} : (single c).contains d = true ↔ d = c := by
  rw [contains, has, flips_single, ← Char.toNat_inj]
  simp only [containsFrom]
  by_cases hlow : c.toNat ≤ d.toNat
  · by_cases hhigh : c.toNat + 1 ≤ d.toNat
    · simp only [if_pos hlow, if_pos hhigh, Bool.not_false, Bool.not_true, Bool.false_eq_true,
        false_iff]
      omega
    · simp only [if_pos hlow, if_neg hhigh, Bool.not_false, true_iff]
      omega
  · simp only [if_neg hlow, Bool.false_eq_true, false_iff]
    omega

end TextSieve.CharSet
