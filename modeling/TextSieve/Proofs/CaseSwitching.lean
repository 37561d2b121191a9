import TextSieve.Proofs.Occurrences

/-!
Rules that do not count case. Such a rule sees no more of the pattern and of a text than their lower
cases. The two cases of an ASCII letter have one lower case, and they weigh the same in the form of
a sigma beside them, so switching the case of letters in the pattern or in the text never changes
what the rule accepts; and neither does taking the lower case beforehand.
-/

namespace TextSieve

open CaseTable

/-! ### Characters that are alike -/

/-- No lower case of a text tells the characters apart: they have the same lower case, and weigh the
same in the form of a sigma. -/
structure Alike (c d : Char) : Prop where
  lower : lowerChar c = lowerChar d
  ignorable : caseIgnorable.contains c = caseIgnorable.contains d
  cased : cased.contains c = cased.contains d
  /-- The lower case of a sigma is not decided by the character alone. -/
  sigma : c = 'Σ' ↔ d = 'Σ'

section Alike

variable {s t before before' : Text}

lemma meetsCased_congr (h : List.Forall₂ Alike s t) : meetsCased s = meetsCased t := by
  induction h with
  | nil => rfl
  | cons hc _ ih => rw [meetsCased_cons, meetsCased_cons, hc.ignorable, hc.cased, ih]

lemma lowerSigma_congr (hbefore : List.Forall₂ Alike before before')
    (h : List.Forall₂ Alike s t) : lowerSigma before s = lowerSigma before' t := by
  rw [lowerSigma, lowerSigma, meetsCased_congr hbefore, meetsCased_congr h]

namespace Text

/-- Texts of characters that are alike have one lower case. The induction is on the texts; the
texts before them grow by characters that are alike. -/
lemma lowercaseAfter_congr (hbefore : List.Forall₂ Alike before before')
    (h : List.Forall₂ Alike s t) : lowercaseAfter before s = lowercaseAfter before' t := by
  induction h generalizing before before' with
  | nil => rfl
  | @cons c d s t hc ht ih =>
    rw [lowercaseAfter_cons, lowercaseAfter_cons, ih (.cons hc hbefore),
      lowerSigma_congr hbefore ht, hc.lower]
    simp only [hc.sigma]

lemma lowercase_congr (h : List.Forall₂ Alike s t) : s.lowercase = t.lowercase :=
  lowercaseAfter_congr .nil h

end Text

end Alike

/-! ### Switching the case of letters -/

/-- The other case of an ASCII letter. All other characters are left as they are. -/
def switchCase (c : Char) : Char :=
  if c.isUpper then c.toLower else if c.isLower then c.toUpper else c

lemma alike_refl (c : Char) : Alike c c := ⟨rfl, rfl, rfl, Iff.rfl⟩

lemma switchCase_of_not_ascii {c : Char} (h : ¬ c.toNat < 128) : switchCase c = c := by
  have hle : ∀ d : Char, d.toNat < 128 → ¬ c.val ≤ d.val := fun d hd hcd =>
    h (Nat.lt_of_le_of_lt (UInt32.le_iff_toNat_le.1 hcd) hd)
  have hupper : c.isUpper = false := decide_eq_false fun hc => hle 'Z' (by decide) hc.2
  have hlower : c.isLower = false := by
    change (decide (c.val ≥ 'a'.val) && decide (c.val ≤ 'z'.val)) = false
    rw [decide_eq_false (hle 'z' (by decide)), Bool.and_false]
  rw [switchCase, hupper, hlower]
  rfl

lemma alike_switchCase (c : Char) : Alike (switchCase c) c := by
  by_cases h : c.toNat < 128
  · have hall : ∀ n < 128, let c := Char.ofNat n
        (switchCase c).toNat < 128 ∧ (switchCase c).toLower = c.toLower ∧
          caseIgnorable.contains (switchCase c) = caseIgnorable.contains c ∧
          cased.contains (switchCase c) = cased.contains c := by decide +kernel
    have hc := hall c.toNat h
    rw [Char.ofNat_toNat] at hc
    obtain ⟨hascii, hlower, hignorable, hcased⟩ := hc
    exact ⟨by rw [lowerChar_of_ascii hascii, lowerChar_of_ascii h, hlower], hignorable, hcased,
      iff_of_false (ne_sigma_of_ascii hascii) (ne_sigma_of_ascii h)⟩
  · rw [switchCase_of_not_ascii h]
    exact alike_refl c

namespace Text

/-- Switches the case of the letters at some positions. -/
def switchAt (positions : ℕ → Bool) (t : Text) : Text :=
  t.mapIdx fun i c => if positions i then switchCase c else c

lemma forall₂_alike_switchAt (positions : ℕ → Bool) (t : Text) :
    List.Forall₂ Alike (t.switchAt positions) t := by
  induction t generalizing positions with
  | nil => exact .nil
  | cons c t ih =>
    rw [switchAt, List.mapIdx_cons]
    refine .cons ?_ (ih fun i => positions (i + 1))
    split
    · exact alike_switchCase c
    · exact alike_refl c

lemma lowercase_switchAt (positions : ℕ → Bool) (t : Text) :
    (t.switchAt positions).lowercase = t.lowercase :=
  lowercase_congr (forall₂_alike_switchAt positions t)

end Text

/-! ### The rules -/

namespace Rule

/-- Where case does not count, patterns with one lower case accept the same texts, and texts with
one lower case are accepted by the same patterns. -/
lemma accepts_congr_lowercase {p p' t t' : Text} (hp : p'.lowercase = p.lowercase)
    (ht : t'.lowercase = t.lowercase) :
    (contains p' false).accepts t' = (contains p false).accepts t ∧
      (endsWith p' false).accepts t' = (endsWith p false).accepts t := by
  simp only [accepts_contains, accepts_endsWith, Text.fold, Bool.false_eq_true, if_false, hp, ht,
    and_self]

open Text in
/-- **Rules for which case does not count ignore it.** Such a rule accepts a text if and only if the
rule for a pattern with some of its letters in the other case accepts the text with some of its
letters in the other case. Nor does it matter whether the pattern, the text or both are given in
lower case. Yet a rule shows the pattern as it was given. -/
theorem case_ignored (p t : Text) :
    (∀ positions positions' : ℕ → Bool,
      let p' := p.switchAt positions
      let t' := t.switchAt positions'
      (contains p' false).accepts t' = (contains p false).accepts t ∧
        (endsWith p' false).accepts t' = (endsWith p false).accepts t) ∧
    ((contains p.lowercase false).accepts t = (contains p false).accepts t ∧
      (endsWith p.lowercase false).accepts t = (endsWith p false).accepts t) ∧
    ((contains p false).accepts t.lowercase = (contains p false).accepts t ∧
      (endsWith p false).accepts t.lowercase = (endsWith p false).accepts t) ∧
    ((contains p.lowercase false).accepts t.lowercase = (contains p false).accepts t ∧
      (endsWith p.lowercase false).accepts t.lowercase = (endsWith p false).accepts t) ∧
    (contains p false).pattern = p ∧ (endsWith p false).pattern = p := by
  have hp := lowercase_lowercase p
  have ht := lowercase_lowercase t
  exact ⟨fun positions positions' => accepts_congr_lowercase (lowercase_switchAt positions p)
      (lowercase_switchAt positions' t),
    accepts_congr_lowercase hp rfl, accepts_congr_lowercase rfl ht, accepts_congr_lowercase hp ht,
    rfl, rfl⟩

end Rule

end TextSieve
