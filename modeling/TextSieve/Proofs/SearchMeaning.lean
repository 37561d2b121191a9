import Mathlib.Data.Finset.Card
import Mathlib.Data.Nat.Bitwise
import Mathlib.Order.Monotone.Basic
import Mathlib.Tactic.Lemma
import TextSieve.Regex.Search

/-!
What searching a text for an expression means. An expression leads from one place in a text to
another when what lies between them matches it there. The sets of places that the search computes
with are those where the expression leads from the places of the set before, so the search finds
something exactly if the expression leads anywhere from a place in the text.
-/

namespace TextSieve.Regex

/-! ### Matches -/

/-- The relation leads from one place to another in a number of steps. -/
def Times (R : ℕ → ℕ → Prop) : ℕ → ℕ → ℕ → Prop
  | 0, i, j => i = j
  | n + 1, i, k => ∃ j, R i j ∧ Times R n j k

/-- The expression leads from one place in the text to another: what lies between them matches it
there. A repetition takes `min` rounds and then some more, as far as its bounds allow. -/
def Expr.Leads (text : Text) : Expr Leaf → ℕ → ℕ → Prop
  | .empty, i, j => i = j
  | .leaf (.chars s), i, j => ∃ c, text[i]? = some c ∧ s.contains c = true ∧ j = i + 1
  | .leaf (.look l), i, j =>
    i ≤ text.length ∧ l.holds (text.take i).reverse (text.drop i) = true ∧ i = j
  | .cat a b, i, k => ∃ j, a.Leads text i j ∧ b.Leads text j k
  | .alt a b, i, j => a.Leads text i j ∨ b.Leads text i j
  | .rep e min max, i, j =>
    ∃ n, (∀ m ∈ max, n ≤ m - min) ∧ Times (e.Leads text) (min + n) i j
  | .capture e, i, j => e.Leads text i j

section Times

variable {R : ℕ → ℕ → Prop} {i j k : ℕ}

lemma times_add {m n : ℕ} : Times R (m + n) i k ↔ ∃ j, Times R m i j ∧ Times R n j k := by
  induction m generalizing i with
  | zero => simp [Times]
  | succ m ih =>
    rw [Nat.succ_add, Times]
    simp only [Times, ih]
    constructor
    · rintro ⟨x, hx, j, hj, hk⟩
      exact ⟨j, ⟨x, hx, hj⟩, hk⟩
    · rintro ⟨j, ⟨x, hx, hj⟩, hk⟩
      exact ⟨x, hx, j, hj, hk⟩

lemma times_succ {n : ℕ} : Times R (n + 1) i k ↔ ∃ j, Times R n i j ∧ R j k := by
  rw [times_add]
  simp [Times]

/-- A set that no step leaves is not left in any number of steps. -/
lemma times_mem {s : Set ℕ} (closed : ∀ i ∈ s, ∀ j, R i j → j ∈ s) (hi : i ∈ s) {n : ℕ}
    (h : Times R n i j) : j ∈ s := by
  induction n generalizing i with
  | zero => exact h ▸ hi
  | succ n ih =>
    obtain ⟨k, hk, hj⟩ := h
    exact ih (closed i hi k hk) hj

/-- A relation that leaves a place only for one below the bound does so in any number of steps. -/
lemma times_eq_or_lt {size : ℕ} (bounded : ∀ i j, R i j → j = i ∨ j < size) {n : ℕ}
    (h : Times R n i j) : j = i ∨ j < size := by
  refine times_mem (s := {j | j = i ∨ j < size}) (fun k hk j hkj => ?_) (Or.inl rfl) h
  rcases bounded k j hkj with rfl | hlt
  · exact hk
  · exact Or.inr hlt

/-! ### How many steps are enough -/

open Classical in
/-- The places below the bound, other than the first, that are reached in `n` steps at most. -/
noncomputable def reached (R : ℕ → ℕ → Prop) (size i n : ℕ) : Finset ℕ :=
  (Finset.range size).filter fun j => j ≠ i ∧ ∃ k ≤ n, Times R k i j

section Reached

variable {size : ℕ} (bounded : ∀ i j, R i j → j = i ∨ j < size)

include bounded

lemma mem_reached {n : ℕ} : j ∈ reached R size i n ↔ j ≠ i ∧ ∃ k ≤ n, Times R k i j := by
  simp only [reached, Finset.mem_filter, Finset.mem_range, and_iff_right_iff_imp]
  rintro ⟨hne, k, -, hk⟩
  exact (times_eq_or_lt bounded hk).resolve_left hne

lemma reached_mono {m n : ℕ} (h : m ≤ n) : reached R size i m ⊆ reached R size i n := by
  intro j hj
  obtain ⟨hne, k, hk, hkj⟩ := (mem_reached bounded).1 hj
  exact (mem_reached bounded).2 ⟨hne, k, Nat.le_trans hk h, hkj⟩

/-- When one more step reaches nothing new, no further step does. -/
lemma reached_succ {n : ℕ} (h : reached R size i n = reached R size i (n + 1)) :
    reached R size i (n + 1) = reached R size i (n + 2) := by
  refine Finset.Subset.antisymm (reached_mono bounded (Nat.le_succ _)) fun k hk => ?_
  obtain ⟨hne, m, hm, hmk⟩ := (mem_reached bounded).1 hk
  rw [mem_reached bounded]
  refine ⟨hne, ?_⟩
  cases m with
  | zero => exact absurd hmk.symm hne
  | succ m =>
    obtain ⟨j, hj, hjk⟩ := times_succ.1 hmk
    by_cases hji : j = i
    · subst hji
      exact ⟨1, by omega, k, hjk, rfl⟩
    · have hreached : j ∈ reached R size i n := by
        rw [h, mem_reached bounded]
        exact ⟨hji, m, by omega, hj⟩
      obtain ⟨-, l, hl, hlj⟩ := (mem_reached bounded).1 hreached
      exact ⟨l + 1, by omega, times_succ.2 ⟨j, hlj, hjk⟩⟩

/-- Whatever is reached at all is reached in no more steps than there are places below the bound:
with every step but the last there is a new place. -/
lemma exists_times_le {n : ℕ} (h : Times R n i j) : ∃ k ≤ size, Times R k i j := by
  by_cases hji : j = i
  · exact ⟨0, Nat.zero_le _, hji.symm⟩
  rcases Nat.le_total n size with hn | hn
  · exact ⟨n, hn, h⟩
  have hcard : (reached R size i n).card = (reached R size i size).card := by
    refine Nat.stabilises_of_monotone (f := fun n => (reached R size i n).card)
      (fun m n hmn => Finset.card_le_card (reached_mono bounded hmn)) (fun m => ?_)
      (fun m hm => ?_) hn
    · classical
      exact (Finset.card_filter_le _ _).trans_eq (Finset.card_range size)
    · have heq := Finset.eq_of_subset_of_card_le (reached_mono bounded (Nat.le_succ m)) hm.ge
      exact congrArg Finset.card (reached_succ bounded heq)
  have hreached := Finset.eq_of_subset_of_card_le (reached_mono bounded hn) hcard.le
  have hj : j ∈ reached R size i size := by
    rw [hreached, mem_reached bounded]
    exact ⟨hji, n, le_rfl, h⟩
  exact ((mem_reached bounded).1 hj).2

end Reached

end Times

/-! ### Sets of places -/

/-- The places that a number stands for. -/
def places (s : ℕ) : Set ℕ := {i | s.testBit i = true}

section Places

variable {s t i : ℕ}

lemma mem_places : i ∈ places s ↔ s.testBit i = true := Iff.rfl

lemma places_eq_empty_iff : places s = ∅ ↔ s = 0 := by
  rw [Set.eq_empty_iff_forall_notMem]
  constructor
  · intro h
    exact Nat.zero_of_testBit_eq_false fun i => Bool.eq_false_iff.2 (h i)
  · rintro rfl i hi
    rw [mem_places, Nat.zero_testBit] at hi
    cases hi

lemma mem_places_or : i ∈ places (s ||| t) ↔ i ∈ places s ∨ i ∈ places t := by
  simp [mem_places, Nat.testBit_or]

lemma mem_places_and : i ∈ places (s &&& t) ↔ i ∈ places s ∧ i ∈ places t := by
  simp [mem_places, Nat.testBit_and]

/-- The places of one set that are not in the other. -/
lemma mem_places_fresh : i ∈ places (t ^^^ (t &&& s)) ↔ i ∈ places t ∧ i ∉ places s := by
  simp only [mem_places, Nat.testBit_xor, Nat.testBit_and]
  cases t.testBit i <;> cases s.testBit i <;> decide

lemma mem_places_shift : i ∈ places (s <<< 1) ↔ ∃ j ∈ places s, i = j + 1 := by
  rw [mem_places, Nat.testBit_shiftLeft, Bool.and_eq_true, decide_eq_true_iff]
  constructor
  · rintro ⟨hi, h⟩
    exact ⟨i - 1, h, by omega⟩
  · rintro ⟨j, hj, rfl⟩
    exact ⟨Nat.le_add_left _ _, by rwa [Nat.add_sub_cancel]⟩

lemma zero_mem_places_consBit {b : Bool} : 0 ∈ places (consBit b s) ↔ b = true := by
  rw [mem_places, consBit, Nat.testBit_zero]
  cases b <;> simp [Nat.add_mod]

lemma succ_mem_places_consBit {b : Bool} : i + 1 ∈ places (consBit b s) ↔ i ∈ places s := by
  have hdiv : consBit b s / 2 = s := by
    unfold consBit
    cases b
    · simp
    · rw [Bool.toNat_true]
      omega
  rw [mem_places, Nat.testBit_succ, hdiv, mem_places]

lemma mem_places_placesOf {cs : CharSet} {text : Text} :
    i ∈ places (placesOf cs text) ↔ ∃ c, text[i]? = some c ∧ cs.contains c = true := by
  induction text generalizing i with
  | nil => simp [placesOf, mem_places]
  | cons c text ih =>
    rw [placesOf]
    cases i with
    | zero => simp [zero_mem_places_consBit]
    | succ i => rw [succ_mem_places_consBit, ih, List.getElem?_cons_succ]

lemma mem_places_placesWhere {l : Look} {before text : Text} :
    i ∈ places (placesWhere l before text) ↔
      i ≤ text.length ∧ l.holds ((text.take i).reverse ++ before) (text.drop i) = true := by
  induction text generalizing i before with
  | nil =>
    rw [placesWhere]
    cases i with
    | zero => simp [zero_mem_places_consBit]
    | succ i =>
      rw [succ_mem_places_consBit]
      simp [mem_places]
  | cons c text ih =>
    rw [placesWhere]
    cases i with
    | zero => simp [zero_mem_places_consBit]
    | succ i => simp [succ_mem_places_consBit, ih]

lemma mem_places_allPlaces {text : Text} : i ∈ places (allPlaces text) ↔ i ≤ text.length := by
  rw [mem_places, allPlaces]
  change (2 ^ (text.length + 1) - 1).testBit i = true ↔ _
  rw [Nat.testBit_two_pow_sub_one, decide_eq_true_iff, Nat.lt_succ_iff]

end Places

/-! ### Running an expression -/

/-- Stopping early changes nothing. -/
lemma iterate_eq (f : ℕ → ℕ) (n s : ℕ) : iterate f n s = f^[n] s := by
  induction n generalizing s with
  | zero => rfl
  | succ n ih =>
    rw [iterate]
    by_cases hs : f s = s
    · rw [if_pos hs, Function.iterate_fixed hs]
    · rw [if_neg hs, ih, Function.iterate_succ_apply]

/-- The function takes a set of places to the places where the relation leads from them. -/
def Follows (f : ℕ → ℕ) (R : ℕ → ℕ → Prop) : Prop :=
  ∀ s j, j ∈ places (f s) ↔ ∃ i ∈ places s, R i j

namespace Follows

variable {f g : ℕ → ℕ} {R S : ℕ → ℕ → Prop}

lemma comp (hf : Follows f R) (hg : Follows g S) :
    Follows (fun s => g (f s)) fun i k => ∃ j, R i j ∧ S j k := by
  intro s k
  rw [hg]
  constructor
  · rintro ⟨j, hj, hk⟩
    obtain ⟨i, hi, hij⟩ := (hf s j).1 hj
    exact ⟨i, hi, j, hij, hk⟩
  · rintro ⟨i, hi, j, hij, hk⟩
    exact ⟨j, (hf s j).2 ⟨i, hi, hij⟩, hk⟩

lemma or (hf : Follows f R) (hg : Follows g S) :
    Follows (fun s => f s ||| g s) fun i j => R i j ∨ S i j := by
  intro s j
  rw [mem_places_or, hf, hg, ← exists_or]
  simp only [and_or_left]

lemma iterate (hf : Follows f R) (n : ℕ) : Follows (Regex.iterate f n) (Times R n) := by
  intro s j
  rw [iterate_eq]
  induction n generalizing s with
  | zero => simp [Times]
  | succ n ih =>
    rw [Function.iterate_succ_apply, ih]
    constructor
    · rintro ⟨k, hk, hkj⟩
      obtain ⟨i, hi, hik⟩ := (hf s k).1 hk
      exact ⟨i, hi, k, hik, hkj⟩
    · rintro ⟨i, hi, k, hik, hkj⟩
      exact ⟨k, (hf s k).2 ⟨i, hi, hik⟩, hkj⟩

/-- Going on from the new places only is enough where what follows the others has been seen. -/
lemma mem_spread (hf : Follows f R) {n seen new : ℕ} (hnew : places new ⊆ places seen)
    (hold : ∀ i ∈ places seen, i ∉ places new → ∀ j, R i j → j ∈ places seen) (j : ℕ) :
    j ∈ places (spread f n seen new) ↔ ∃ i ∈ places seen, ∃ k ≤ n, Times R k i j := by
  induction n generalizing seen new with
  | zero => simp [spread, Times]
  | succ n ih =>
    rw [spread]
    have hstep : ∀ i ∈ places seen, ∀ j, R i j →
        j ∈ places seen ∨ j ∈ places (f new ^^^ (f new &&& seen)) := by
      intro i hi j hij
      by_cases hj : j ∈ places seen
      · exact Or.inl hj
      · have hi' : i ∈ places new := by
          by_contra hn
          exact hj (hold i hi hn j hij)
        exact Or.inr (mem_places_fresh.2 ⟨(hf new j).2 ⟨i, hi', hij⟩, hj⟩)
    by_cases hfresh : f new ^^^ (f new &&& seen) = 0
    · -- nothing leads out of what has been seen
      rw [if_pos hfresh]
      have hclosed : ∀ i ∈ places seen, ∀ j, R i j → j ∈ places seen := by
        intro i hi j hij
        have hj := hstep i hi j hij
        rw [places_eq_empty_iff.2 hfresh] at hj
        exact hj.resolve_right id
      constructor
      · intro hj
        exact ⟨j, hj, 0, Nat.zero_le _, rfl⟩
      · rintro ⟨i, hi, k, -, hk⟩
        exact times_mem hclosed hi hk
    · rw [if_neg hfresh, ih (fun i hi => mem_places_or.2 (Or.inr hi))]
      · constructor
        · rintro ⟨i, hi, k, hk, hkj⟩
          rcases mem_places_or.1 hi with hi | hi
          · exact ⟨i, hi, k, Nat.le_succ_of_le hk, hkj⟩
          · obtain ⟨i', hi', hii'⟩ := (hf new i).1 (mem_places_fresh.1 hi).1
            exact ⟨i', hnew hi', k + 1, Nat.succ_le_succ hk, i, hii', hkj⟩
        · rintro ⟨i, hi, k, hk, hkj⟩
          cases k with
          | zero => exact ⟨i, mem_places_or.2 (Or.inl hi), 0, Nat.zero_le _, hkj⟩
          | succ k =>
            obtain ⟨i', hii', hj⟩ := hkj
            exact ⟨i', mem_places_or.2 (hstep i hi i' hii'), k, Nat.le_of_succ_le_succ hk, hj⟩
      · intro i hi hfr j hij
        exact mem_places_or.2 (hstep i ((mem_places_or.1 hi).resolve_right hfr) j hij)

lemma spread (hf : Follows f R) (n : ℕ) :
    Follows (fun s => Regex.spread f n s s) fun i j => ∃ k ≤ n, Times R k i j :=
  fun _ j => hf.mem_spread subset_rfl (fun _ hi hn => absurd hi hn) j

end Follows

namespace Expr

variable {text : Text}

/-- An expression leaves a place only for a place in the text. -/
lemma Leads.eq_or_le {e : Expr Leaf} {i j : ℕ} (h : e.Leads text i j) :
    j = i ∨ j < text.length + 1 := by
  induction e generalizing i j with
  | empty => exact Or.inl h.symm
  | leaf x =>
    cases x with
    | chars s =>
      obtain ⟨c, hc, -, rfl⟩ := h
      obtain ⟨hi, -⟩ := List.getElem?_eq_some_iff.1 hc
      exact Or.inr (Nat.succ_lt_succ hi)
    | look l => exact Or.inl h.2.2.symm
  | cat a b iha ihb =>
    obtain ⟨k, hk, hj⟩ := h
    rcases ihb hj with rfl | hlt
    · exact iha hk
    · exact Or.inr hlt
  | alt a b iha ihb => exact h.elim iha ihb
  | rep e min max ih =>
    obtain ⟨n, -, hn⟩ := h
    exact times_eq_or_lt (fun _ _ => ih) hn
  | capture e ih => exact ih h

lemma follows_apply (x : Leaf) : Follows (x.move text).apply ((leaf x).Leads text) := by
  intro s j
  cases x with
  | chars cs =>
    simp only [Leaf.move, Move.apply, mem_places_shift, mem_places_and, mem_places_placesOf, Leads]
    constructor
    · rintro ⟨i, ⟨hi, c, hc, hcs⟩, rfl⟩
      exact ⟨i, hi, c, hc, hcs, rfl⟩
    · rintro ⟨i, hi, c, hc, hcs, rfl⟩
      exact ⟨i, ⟨hi, c, hc, hcs⟩, rfl⟩
  | look l =>
    simp only [Leaf.move, Move.apply, mem_places_and, mem_places_placesWhere, List.append_nil,
      Leads]
    constructor
    · rintro ⟨hj, hle, hl⟩
      exact ⟨j, hj, hle, hl, rfl⟩
    · rintro ⟨i, hi, hle, hl, rfl⟩
      exact ⟨hi, hle, hl⟩

/-- **Running an expression follows its matches.** By induction on the expression, with all sets of
places. -/
theorem follows_run (e : Expr Leaf) :
    Follows ((e.map (Leaf.move text)).run (text.length + 1)) (e.Leads text) := by
  induction e with
  | empty =>
    intro s j
    simp [map, run, Leads]
  | leaf x => exact follows_apply x
  | cat a b iha ihb => exact iha.comp ihb
  | alt a b iha ihb => exact iha.or ihb
  | rep e min max ih =>
    intro s j
    have hmin := ih.iterate min
    simp only [Leads, times_add]
    cases max with
    | none =>
      have hall : ∀ i j, (∃ n, Times (e.Leads text) n i j) ↔
          ∃ n ≤ text.length + 1, Times (e.Leads text) n i j := fun i j =>
        ⟨fun ⟨n, hn⟩ => exists_times_le (fun _ _ => Leads.eq_or_le) hn,
          fun ⟨n, _, hn⟩ => ⟨n, hn⟩⟩
      refine ((hmin.comp (ih.spread (text.length + 1))) s j).trans ?_
      simp only [← hall]
      constructor
      · rintro ⟨i, hi, k, hk, n, hn⟩
        exact ⟨i, hi, n, nofun, k, hk, hn⟩
      · rintro ⟨i, hi, n, -, k, hk, hn⟩
        exact ⟨i, hi, k, hk, n, hn⟩
    | some m =>
      refine ((hmin.comp (ih.spread (m - min))) s j).trans ?_
      constructor
      · rintro ⟨i, hi, k, hk, n, hle, hn⟩
        refine ⟨i, hi, n, ?_, k, hk, hn⟩
        rintro _ ⟨⟩
        exact hle
      · rintro ⟨i, hi, n, hle, k, hk, hn⟩
        exact ⟨i, hi, k, hk, n, hle m rfl, hn⟩
  | capture e ih => exact ih

/-- **The search finds a match exactly if there is one**: if the expression leads anywhere from some
place in the text. -/
theorem search_iff {e : Expr Leaf} :
    e.search text = true ↔ ∃ i ≤ text.length, ∃ j, e.Leads text i j := by
  rw [search, bne_iff_ne, ne_eq, ← places_eq_empty_iff, ← ne_eq, ← Set.nonempty_iff_ne_empty]
  constructor
  · rintro ⟨j, hj⟩
    obtain ⟨i, hi, hij⟩ := (follows_run e _ j).1 hj
    exact ⟨i, mem_places_allPlaces.1 hi, j, hij⟩
  · rintro ⟨i, hi, j, hij⟩
    exact ⟨j, (follows_run e _ j).2 ⟨i, mem_places_allPlaces.2 hi, hij⟩⟩

end Expr

end TextSieve.Regex
