import TextSieve.Proofs.Occurrences

/-!
How the lower case of a part of a text depends on where it stands. All characters but the capital
sigma have one lower case everywhere; the sigma is a final one at the end of a word, and a pattern
that begins or ends with it need not be a word of the text. So a rule for which case does not count
accepts what the rule accepts for which it does, unless the place of the pattern in the text gives
one of its sigmas another form.
-/

namespace TextSieve

namespace Text

/-! ### Parts of a text -/

/-- The lower case of a part of a text, between what stands before it, read backwards, and what
stands behind it. -/
def lowercaseBetween (before after : Text) : Text → Text
  | [] => []
  | c :: t =>
    (if c = 'Σ' then [lowerSigma before (t ++ after)] else lowerChar c) ++
      lowercaseBetween (c :: before) after t

lemma lowercaseBetween_nil (before t : Text) :
    lowercaseBetween before [] t = lowercaseAfter before t := by
  induction t generalizing before with
  | nil => rfl
  | cons c t ih => rw [lowercaseBetween, lowercaseAfter_cons, ih, List.append_nil]

lemma lowercaseAfter_append (before s t : Text) :
    lowercaseAfter before (s ++ t) =
      lowercaseBetween before t s ++ lowercaseAfter (s.reverse ++ before) t := by
  induction s generalizing before with
  | nil => rfl
  | cons c s ih =>
    rw [List.cons_append, lowercaseAfter_cons, ih, lowercaseBetween, List.reverse_cons,
      List.append_assoc, List.append_assoc, List.singleton_append]

/-- Both forms of a sigma are one character. -/
lemma length_lowercaseBetween (before after before' after' t : Text) :
    (lowercaseBetween before after t).length = (lowercaseBetween before' after' t).length := by
  induction t generalizing before before' with
  | nil => rfl
  | cons c t ih =>
    rw [lowercaseBetween, lowercaseBetween, List.length_append, List.length_append,
      ih _ (c :: before')]
    split <;> rfl

/-! ### The forms of sigmas -/

/-- Every capital sigma of the text has the same form between the two others as in the text
alone. -/
def SigmasKeep (t before after : Text) : Prop :=
  ∀ u v, t = u ++ 'Σ' :: v →
    lowerSigma (u.reverse ++ before.reverse) (v ++ after) = lowerSigma u.reverse v

/-- What holds at each place of a character in a text with one more in front. -/
lemma forall_split_cons {c d : Char} {t : Text} {P : Text → Text → Prop} :
    (∀ u v, c :: t = u ++ d :: v → P u v) ↔
      (c = d → P [] t) ∧ ∀ u v, t = u ++ d :: v → P (c :: u) v := by
  constructor
  · intro h
    refine ⟨?_, ?_⟩
    · rintro rfl
      exact h [] t rfl
    · rintro u v rfl
      exact h (c :: u) v rfl
  · rintro ⟨hhead, htail⟩ u v huv
    rcases List.cons_eq_append_iff.1 huv with ⟨rfl, hdv⟩ | ⟨u', rfl, ht⟩
    · obtain ⟨rfl, rfl⟩ := List.cons.inj hdv
      exact hhead rfl
    · exact htail u' v ht

/-- The lower case is the same at two places if and only if the sigmas have the same forms. -/
lemma lowercaseBetween_eq_iff {before after before' after' t : Text} :
    lowercaseBetween before after t = lowercaseBetween before' after' t ↔
      ∀ u v, t = u ++ 'Σ' :: v → lowerSigma (u.reverse ++ before) (v ++ after) =
        lowerSigma (u.reverse ++ before') (v ++ after') := by
  induction t generalizing before before' with
  | nil => exact iff_of_true rfl fun u v h => absurd h (by simp)
  | cons c t ih =>
    rw [forall_split_cons]
    simp only [List.reverse_cons, List.append_assoc, List.singleton_append]
    rw [← ih, lowercaseBetween, lowercaseBetween]
    by_cases hc : c = 'Σ'
    · subst hc
      rw [if_pos rfl, if_pos rfl, List.singleton_append, List.singleton_append, List.cons.injEq]
      exact ⟨fun h => ⟨fun _ => h.1, h.2⟩, fun h => ⟨h.1 rfl, h.2⟩⟩
    · rw [if_neg hc, if_neg hc, List.append_cancel_left_eq]
      exact ⟨fun h => ⟨fun hsigma => absurd hsigma hc, h⟩, And.right⟩

lemma sigmasKeep_iff {t before after : Text} :
    t.SigmasKeep before after ↔ lowercaseBetween before.reverse after t = t.lowercase := by
  rw [lowercase, ← lowercaseBetween_nil, lowercaseBetween_eq_iff]
  simp only [List.append_nil]
  rfl

lemma sigmasKeep_of_not_mem {t : Text} (h : 'Σ' ∉ t) (before after : Text) :
    t.SigmasKeep before after := by
  rintro u v rfl
  exact absurd (List.mem_append_right u List.mem_cons_self) h

/-- What stands behind a text matters to its first cased character only if it meets one itself. -/
lemma meetsCased_append (s : Text) {t : Text} (h : meetsCased t = false) :
    meetsCased (s ++ t) = meetsCased s := by
  induction s with
  | nil => exact h
  | cons c s ih => rw [List.cons_append, meetsCased_cons, meetsCased_cons, ih]

/-- Sigmas keep their forms where no cased character touches the text on either side. -/
lemma sigmasKeep_of_apart (t : Text) {before after : Text}
    (hbefore : meetsCased before.reverse = false) (hafter : meetsCased after = false) :
    t.SigmasKeep before after := by
  intro u v _
  rw [lowerSigma, lowerSigma, meetsCased_append _ hbefore, meetsCased_append _ hafter]

/-! ### Patterns in the lower case of a text -/

lemma occursIn_lowercase {p a b : Text} (h : p.SigmasKeep a b) :
    p.lowercase.occursIn (a ++ p ++ b).lowercase = true := by
  rw [occursIn_iff, List.append_assoc, lowercase, lowercaseAfter_append, List.append_nil,
    lowercaseAfter_append, sigmasKeep_iff.1 h, ← List.append_assoc]
  exact ⟨_, _, rfl⟩

/-- At the end of a text there is only one place for the pattern. -/
lemma ends_lowercase_iff {p a : Text} :
    p.lowercase.ends (a ++ p).lowercase = true ↔ p.SigmasKeep a [] := by
  rw [ends_iff, sigmasKeep_iff, lowercase, lowercaseAfter_append, List.append_nil,
    ← lowercaseBetween_nil a.reverse]
  constructor
  · rintro ⟨x, h⟩
    refine (List.append_inj' h ?_).2
    rw [lowercase, ← lowercaseBetween_nil]
    exact length_lowercaseBetween ..
  · intro h
    rw [h]
    exact ⟨_, rfl⟩

end Text

/-! ### The rules -/

namespace Rule

open Text in
/-- **Ignoring case loses no text but for the form of a sigma.** Let the rule for which case counts
find its pattern in a text. Where every capital sigma of the pattern has the form there that it has
in the pattern alone, the rule for which case does not count accepts the text as well; and at the
end of a text it does so only there. That is the case if no cased character touches the pattern
on either side, and always for a pattern without capital sigmas. -/
theorem permissive_unless_sigma_changes (p : Text) :
    (∀ t, (contains p true).accepts t = true ↔ ∃ a b, t = a ++ p ++ b) ∧
    (∀ t, (endsWith p true).accepts t = true ↔ ∃ a, t = a ++ p) ∧
    (∀ a b, p.SigmasKeep a b → (contains p false).accepts (a ++ p ++ b) = true) ∧
    (∀ a, (endsWith p false).accepts (a ++ p) = true ↔ p.SigmasKeep a []) ∧
    (∀ a b, meetsCased a.reverse = false → meetsCased b = false → p.SigmasKeep a b) ∧
    ('Σ' ∉ p → ∀ t,
      ((contains p true).accepts t = true → (contains p false).accepts t = true) ∧
      ((endsWith p true).accepts t = true → (endsWith p false).accepts t = true)) := by
  have hcontains : ∀ t, (contains p true).accepts t = true ↔ ∃ a b, t = a ++ p ++ b := fun t =>
    occursIn_iff
  have hends : ∀ t, (endsWith p true).accepts t = true ↔ ∃ a, t = a ++ p := fun t => ends_iff
  refine ⟨hcontains, hends, fun a b h => occursIn_lowercase h, fun a => ends_lowercase_iff,
    fun a b => sigmasKeep_of_apart p, fun hp t => ⟨fun h => ?_, fun h => ?_⟩⟩
  · obtain ⟨a, b, rfl⟩ := (hcontains t).1 h
    exact occursIn_lowercase (sigmasKeep_of_not_mem hp a b)
  · obtain ⟨a, rfl⟩ := (hends t).1 h
    exact ends_lowercase_iff.2 (sigmasKeep_of_not_mem hp a [])

/-- The pattern is found at the end of the second word, though not inside the first; and a pattern
without sigmas is found wherever it stands. -/
theorem permissive_unless_sigma_changes_words :
    let t : Text := "ΑΣΑ ΑΣ."
    ((contains "ΑΣ" true).accepts t = true ∧ Text.SigmasKeep "ΑΣ" "ΑΣΑ " "." ∧
      (contains "ΑΣ" false).accepts t = true) ∧
    'Σ' ∉ "Α ".toList ∧ (contains "Α " true).accepts t = true ∧
      (contains "Α " false).accepts t = true := by
  intro t
  obtain ⟨hfound, -, hkeeps, -, hapart, -⟩ := permissive_unless_sigma_changes "ΑΣ"
  have h := hapart "ΑΣΑ " "." (by decide) (by decide)
  obtain ⟨hfound', -, -, -, -, hnone⟩ := permissive_unless_sigma_changes "Α "
  have hfree : 'Σ' ∉ "Α ".toList := by decide
  have hexact : (contains "Α " true).accepts t = true := (hfound' t).2 ⟨"ΑΣ", "ΑΣ.", rfl⟩
  exact ⟨⟨(hfound t).2 ⟨"ΑΣΑ ", ".", rfl⟩, h, hkeeps "ΑΣΑ " "." h⟩, hfree, hexact,
    (hnone hfree t).1 hexact⟩

/-- A sigma that ends the pattern does not end the word in the text, and one that begins the pattern
ends a word of the text. -/
theorem sigma_changes_refused :
    (contains "ΑΣ" true).accepts "ΑΣΑ" = true ∧ (contains "ΑΣ" false).accepts "ΑΣΑ" = false ∧
      (endsWith "Σ" true).accepts "ΑΣ" = true ∧ (endsWith "Σ" false).accepts "ΑΣ" = false := by
  decide

end Rule

end TextSieve
