import Mathlib.Data.List.Chain
import Mathlib.Data.List.Forall2
import Mathlib.Tactic.Lemma
import TextSieve.Text.Lowercase

/-!
The lower case of characters and texts. No lower case of a capital is a capital, so taking the
lower case twice is taking it once. Which form a sigma takes depends on the characters around it
only as far as they are cased or passed over; characters that are alike in this, and have the same
lower case, can stand for each other.
-/

namespace TextSieve

namespace CaseTable

/-! ### Runs of capitals -/

namespace Run

/-- The distance from the first member of a run to its last. -/
def span (r : Run) : ℕ := r.step * (r.count - 1)

lemma lower?_eq_some_iff {r : Run} {n m : ℕ} :
    r.lower? n = some m ↔ ∃ k ≤ r.span, k % r.step = 0 ∧ n = r.start + k ∧ m = r.image + k := by
  simp only [lower?, Option.ite_none_right_eq_some, Option.some.injEq, Bool.and_eq_true,
    decide_eq_true_eq, beq_iff_eq]
  constructor
  · rintro ⟨⟨⟨hstart, hend⟩, hstep⟩, rfl⟩
    refine ⟨n - r.start, ?_, hstep, by omega, rfl⟩
    unfold span
    omega
  · rintro ⟨k, hk, hstep, rfl, rfl⟩
    unfold span at hk
    rw [Nat.add_sub_cancel_left]
    exact ⟨⟨⟨Nat.le_add_right _ _, by omega⟩, hstep⟩, rfl⟩

lemma lower?_eq_none_of_lt {r : Run} {n : ℕ} (h : n < r.start) : r.lower? n = none := by
  rw [Option.eq_none_iff_forall_ne_some]
  intro m hm
  obtain ⟨k, -, -, rfl, -⟩ := lower?_eq_some_iff.1 hm
  omega

/-- The lower cases of a run are not members of any of the runs, which come in increasing order:
they lie above a run, or below it and all that follow, or among its members, where both take every
second point. -/
def clears (r : Run) : List Run → Bool
  | [] => true
  | s :: ss =>
    if s.start + s.span < r.image then r.clears ss
    else if r.image + r.span < s.start then true
    else (r.span == 0 || r.step == 2) && s.step == 2 && (r.image + s.start) % 2 == 1 && r.clears ss

lemma lower?_eq_none_of_clears {r : Run} {ss : List Run}
    (sorted : ss.Pairwise fun s s' => s.start < s'.start) (h : r.clears ss = true) {n m : ℕ}
    (hm : r.lower? n = some m) : ∀ s ∈ ss, s.lower? m = none := by
  obtain ⟨k, hk, hstep, -, rfl⟩ := lower?_eq_some_iff.1 hm
  induction ss with
  | nil => exact nofun
  | cons s ss ih =>
    obtain ⟨hfirst, hlater⟩ := List.pairwise_cons.1 sorted
    rw [clears] at h
    by_cases habove : s.start + s.span < r.image
    · rw [if_pos habove] at h
      refine List.forall_mem_cons.2 ⟨?_, ih hlater h⟩
      rw [Option.eq_none_iff_forall_ne_some]
      intro m hm
      obtain ⟨j, hj, -, heq, -⟩ := lower?_eq_some_iff.1 hm
      omega
    · rw [if_neg habove] at h
      by_cases hbelow : r.image + r.span < s.start
      · refine List.forall_mem_cons.2
          ⟨lower?_eq_none_of_lt (by omega), fun t ht => lower?_eq_none_of_lt ?_⟩
        have := hfirst t ht
        omega
      · rw [if_neg hbelow] at h
        simp only [Bool.and_eq_true, Bool.or_eq_true, beq_iff_eq] at h
        obtain ⟨⟨⟨hr, hs⟩, hparity⟩, hrest⟩ := h
        refine List.forall_mem_cons.2 ⟨?_, ih hlater hrest⟩
        -- both points have the parity of the first in their run
        have hk2 : k % 2 = 0 := by
          rcases hr with hr | hr
          · omega
          · rwa [hr] at hstep
        rw [Option.eq_none_iff_forall_ne_some]
        intro m hm
        obtain ⟨j, -, hj2, heq, -⟩ := lower?_eq_some_iff.1 hm
        rw [hs] at hj2
        omega

end Run

/-- The character `İ` as a run of its own. -/
def dottedCapital : Run := ⟨304, 1, 1, 105⟩

lemma runs_sorted : runs.Pairwise fun r s => r.start < s.start := by
  have h : runs.IsChain fun r s => r.start < s.start := by decide +kernel
  have : IsTrans Run fun r s => r.start < s.start := ⟨fun _ _ _ => Nat.lt_trans⟩
  exact h.pairwise

lemma clears_runs : ∀ r ∈ runs, r.clears runs = true ∧ r.clears [dottedCapital] = true := by
  decide +kernel

/-- The lower cases of a run are characters: no surrogate lies among them. -/
lemma image_valid : ∀ r ∈ runs, (r.image + r.span).isValidChar ∧
    (r.image + r.span < 0xd800 ∨ 0xdfff < r.image) := by
  decide +kernel

lemma toNat_ofNat_of_lower? {r : Run} (hr : r ∈ runs) {n m : ℕ} (h : r.lower? n = some m) :
    (Char.ofNat m).toNat = m := by
  obtain ⟨k, hk, -, -, rfl⟩ := Run.lower?_eq_some_iff.1 h
  have hvalid : (r.image + k).isValidChar := by
    have := image_valid r hr
    unfold Nat.isValidChar at this ⊢
    omega
  rw [Char.ofNat, dif_pos hvalid]
  rfl

end CaseTable

open CaseTable

/-! ### The lower case of a character -/

/-- What stands in the lower case of a character is its own lower case. -/
theorem lowerChar_of_mem {c d : Char} (h : d ∈ lowerChar c) : lowerChar d = [d] := by
  unfold lowerChar at h
  by_cases hc : c = 'İ'
  · rw [if_pos hc, List.mem_pair] at h
    rcases h with rfl | rfl <;> decide
  · rw [if_neg hc] at h
    cases hrun : runs.findSome? (·.lower? c.toNat) with
    | none =>
      simp only [hrun, List.mem_singleton] at h
      subst h
      simp only [lowerChar, if_neg hc, hrun]
    | some n =>
      simp only [hrun, List.mem_singleton] at h
      subst h
      obtain ⟨r, hr, hn⟩ := List.exists_of_findSome?_eq_some hrun
      obtain ⟨hclears, hdotted⟩ := clears_runs r hr
      have hval := toNat_ofNat_of_lower? hr hn
      have hne : Char.ofNat n ≠ 'İ' := by
        intro heq
        have hdot := Run.lower?_eq_none_of_clears (List.pairwise_singleton _ _) hdotted hn
          dottedCapital List.mem_cons_self
        rw [← hval, heq] at hdot
        cases hdot
      have hnone : runs.findSome? (·.lower? n) = none :=
        List.findSome?_eq_none_iff.2 (Run.lower?_eq_none_of_clears runs_sorted hclears hn)
      simp only [lowerChar, if_neg hne, hval, hnone]

/-- A character that is its own lower case is no capital sigma. -/
lemma ne_sigma_of_lowerChar {c : Char} (h : lowerChar c = [c]) : c ≠ 'Σ' := by
  rintro rfl
  exact absurd h (by decide)

lemma meetsCased_cons (c : Char) (t : Text) :
    meetsCased (c :: t) =
      if caseIgnorable.contains c then meetsCased t else cased.contains c := by
  unfold meetsCased
  rw [List.dropWhile_cons]
  cases caseIgnorable.contains c <;> rfl

lemma lowerChar_lowerSigma (before after : Text) :
    lowerChar (lowerSigma before after) = [lowerSigma before after] := by
  unfold lowerSigma
  split <;> decide

lemma ne_sigma_of_ascii {c : Char} (h : c.toNat < 128) : c ≠ 'Σ' := by
  rintro rfl
  exact absurd h (by decide)

/-- Of the runs only the first has members in ASCII. -/
lemma lowerChar_of_ascii {c : Char} (h : c.toNat < 128) : lowerChar c = [c.toLower] := by
  have hdotted : c ≠ 'İ' := by
    rintro rfl
    exact absurd h (by decide)
  have hlater : ∀ r ∈ runs.tail, 128 ≤ r.start := by decide +kernel
  have hnone : runs.tail.findSome? (·.lower? c.toNat) = none :=
    List.findSome?_eq_none_iff.2 fun r hr =>
      Run.lower?_eq_none_of_lt (Nat.lt_of_lt_of_le h (hlater r hr))
  have hfirst : ∀ n < 128, ((⟨65, 26, 1, 97⟩ : Run).lower? n).elim [Char.ofNat n]
      (fun m => [Char.ofNat m]) = [(Char.ofNat n).toLower] := by decide
  have hc := hfirst c.toNat h
  rw [Char.ofNat_toNat] at hc
  have hruns : runs = ⟨65, 26, 1, 97⟩ :: runs.tail := rfl
  rw [lowerChar, if_neg hdotted, hruns, List.findSome?_cons, hnone, ← hc]
  cases (⟨65, 26, 1, 97⟩ : Run).lower? c.toNat <;> rfl

namespace Text

/-! ### The lower case of a text -/

lemma lowercaseAfter_cons (before : Text) (c : Char) (t : Text) :
    lowercaseAfter before (c :: t) =
      (if c = 'Σ' then [lowerSigma before t] else lowerChar c) ++
        lowercaseAfter (c :: before) t := rfl

/-- Without a capital sigma the lower case is taken character by character, here where none of them
becomes two. -/
lemma lowercaseAfter_eq_map {f : Char → Char} {t : Text}
    (h : ∀ c ∈ t, c ≠ 'Σ' ∧ lowerChar c = [f c]) (before : Text) :
    lowercaseAfter before t = t.map f := by
  induction t generalizing before with
  | nil => rfl
  | cons c t ih =>
    obtain ⟨⟨hsigma, hc⟩, ht⟩ := List.forall_mem_cons.1 h
    rw [lowercaseAfter_cons, if_neg hsigma, hc, ih ht, List.singleton_append, List.map_cons]

lemma lowered_of_mem_lowercaseAfter {before t : Text} {d : Char}
    (h : d ∈ lowercaseAfter before t) : lowerChar d = [d] := by
  induction t generalizing before with
  | nil => cases h
  | cons c t ih =>
    rw [lowercaseAfter_cons, List.mem_append] at h
    rcases h with h | h
    · split at h
      · rw [List.mem_singleton.1 h]
        exact lowerChar_lowerSigma before t
      · exact lowerChar_of_mem h
    · exact ih h

/-- **The lower case of a lower case is the lower case.** -/
theorem lowercase_lowercase (t : Text) : t.lowercase.lowercase = t.lowercase := by
  have hlowered : ∀ c ∈ t.lowercase, lowerChar c = [id c] := fun _ => lowered_of_mem_lowercaseAfter
  have h := lowercaseAfter_eq_map (fun c hc => ⟨ne_sigma_of_lowerChar (hlowered c hc),
    hlowered c hc⟩) []
  rwa [List.map_id] at h

end Text

end TextSieve
