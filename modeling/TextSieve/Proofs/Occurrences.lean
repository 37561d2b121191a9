import Mathlib.Data.List.Infix
import TextSieve.Proofs.Export
import TextSieve.Proofs.LowerCase

/-!
What the rules that compare texts accept. The search finds a pattern if and only if the text holds
it somewhere, and what is compared are the texts themselves or their lower cases. On ASCII texts
this is comparing character by character up to the case of letters.
-/

namespace TextSieve

namespace Text

/-! ### Searching a text -/

section Search

variable {p t : Text}

/-- The search is complete: at every place of the text it tries the whole pattern. -/
lemma occursIn_iff_isInfix : occursIn p t = true ↔ p <:+: t := by
  induction t with
  | nil => rw [occursIn, List.isEmpty_iff, List.infix_nil]
  | cons c t ih =>
    rw [occursIn, Bool.or_eq_true, List.isPrefixOf_iff_prefix, ih, List.infix_cons_iff]

lemma occursIn_iff : occursIn p t = true ↔ ∃ a b, t = a ++ p ++ b := by
  rw [occursIn_iff_isInfix]
  exact exists₂_congr fun a b => eq_comm

lemma ends_iff : ends p t = true ↔ ∃ a, t = a ++ p := by
  rw [ends, List.isSuffixOf_iff_suffix]
  exact exists_congr fun a => eq_comm

lemma occursIn_of_ends (h : ends p t = true) : occursIn p t = true := by
  obtain ⟨a, rfl⟩ := ends_iff.1 h
  exact occursIn_iff.2 ⟨a, [], (List.append_nil _).symm⟩

end Search

/-! ### ASCII texts -/

/-- All characters of the text are in ASCII. -/
def IsAscii (t : Text) : Prop := ∀ c ∈ t, c.toNat < 128

instance (t : Text) : Decidable t.IsAscii := by
  unfold IsAscii
  exact List.decidableBAll _ t

/-- The texts are equal position by position, up to the case of ASCII letters. -/
def SameLetters (s t : Text) : Prop := List.Forall₂ (fun c d => c.toLower = d.toLower) s t

lemma sameLetters_iff {s t : Text} :
    SameLetters s t ↔ s.map Char.toLower = t.map Char.toLower := by
  rw [← List.forall₂_eq_eq_eq, List.forall₂_map_left_iff, List.forall₂_map_right_iff]
  rfl

lemma lowercase_of_ascii {t : Text} (h : t.IsAscii) : t.lowercase = t.map Char.toLower :=
  lowercaseAfter_eq_map (fun c hc => ⟨ne_sigma_of_ascii (h c hc), lowerChar_of_ascii (h c hc)⟩) []

/-- A window of the changed text is the changed window of the text. -/
lemma exists_window_map_iff {p t : Text} :
    (∃ a b, t.map Char.toLower = a ++ p.map Char.toLower ++ b) ↔
      ∃ a w b, t = a ++ w ++ b ∧ SameLetters p w := by
  constructor
  · rintro ⟨a, b, h⟩
    obtain ⟨aw, b', rfl, h', -⟩ := List.map_eq_append_iff.1 h
    obtain ⟨a', w, rfl, -, hw⟩ := List.map_eq_append_iff.1 h'
    exact ⟨a', w, b', rfl, sameLetters_iff.2 hw.symm⟩
  · rintro ⟨a, w, b, rfl, hw⟩
    rw [sameLetters_iff.1 hw, List.map_append, List.map_append]
    exact ⟨_, _, rfl⟩

lemma exists_end_map_iff {p t : Text} :
    (∃ a, t.map Char.toLower = a ++ p.map Char.toLower) ↔
      ∃ a w, t = a ++ w ∧ SameLetters p w := by
  constructor
  · rintro ⟨a, h⟩
    obtain ⟨a', w, rfl, -, hw⟩ := List.map_eq_append_iff.1 h
    exact ⟨a', w, rfl, sameLetters_iff.2 hw.symm⟩
  · rintro ⟨a, w, rfl, hw⟩
    rw [sameLetters_iff.1 hw, List.map_append]
    exact ⟨_, rfl⟩

lemma fold_eq (caseSensitive : Bool) (t : Text) :
    t.fold caseSensitive = (if caseSensitive then id else lowercase) t := by
  cases caseSensitive <;> rfl

end Text

/-! ### The rules -/

namespace Rule

lemma accepts_contains (p t : Text) (caseSensitive : Bool) :
    (contains p caseSensitive).accepts t =
      (p.fold caseSensitive).occursIn (t.fold caseSensitive) := rfl

lemma accepts_endsWith (p t : Text) (caseSensitive : Bool) :
    (endsWith p caseSensitive).accepts t = (p.fold caseSensitive).ends (t.fold caseSensitive) := rfl

end Rule

open Text in
/-- **What comparing rules accept.** The rule that the builtin registry makes for `contains` accepts
the texts that hold the pattern somewhere, and the one for `endswith` those that end with it; what
is compared are the texts themselves, or their lower cases. For ASCII texts whose case does not
count, this is a window of the text, or its end, that has the same letters as the pattern. So the
second rule accepts no text that the first does not, and the empty pattern is found in every
text. -/
theorem Registry.comparing_rules_exact (p : Text) (caseSensitive : Bool) :
    let fold : Text → Text := if caseSensitive then id else lowercase
    ∃ contains endsWith : Rule,
      Registry.builtin.build "contains" p caseSensitive = .ok contains ∧
      Registry.builtin.build "endswith" p caseSensitive = .ok endsWith ∧
      ∀ t : Text,
        (contains.accepts t = true ↔ ∃ a b, fold t = a ++ fold p ++ b) ∧
        (endsWith.accepts t = true ↔ ∃ a, fold t = a ++ fold p) ∧
        (p.IsAscii → t.IsAscii → caseSensitive = false →
          (contains.accepts t = true ↔ ∃ a w b, t = a ++ w ++ b ∧ SameLetters p w) ∧
          (endsWith.accepts t = true ↔ ∃ a w, t = a ++ w ∧ SameLetters p w)) ∧
        (endsWith.accepts t = true → contains.accepts t = true) ∧
        (p = [] → contains.accepts t = true ∧ endsWith.accepts t = true) := by
  intro fold
  refine ⟨.contains p caseSensitive, .endsWith p caseSensitive,
    Registry.build_of_find? (Registry.find?_name .contains) p caseSensitive,
    Registry.build_of_find? (Registry.find?_name .endsWith) p caseSensitive, fun t => ?_⟩
  have hcontains : (Rule.contains p caseSensitive).accepts t = true ↔
      ∃ a b, fold t = a ++ fold p ++ b := by
    rw [Rule.accepts_contains, fold_eq, fold_eq]
    exact occursIn_iff
  have hends : (Rule.endsWith p caseSensitive).accepts t = true ↔ ∃ a, fold t = a ++ fold p := by
    rw [Rule.accepts_endsWith, fold_eq, fold_eq]
    exact ends_iff
  refine ⟨hcontains, hends, ?_, occursIn_of_ends, ?_⟩
  · rintro hp ht rfl
    have hfp : fold p = p.map Char.toLower := lowercase_of_ascii hp
    have hft : fold t = t.map Char.toLower := lowercase_of_ascii ht
    rw [hcontains, hends, hfp, hft]
    exact ⟨exists_window_map_iff, exists_end_map_iff⟩
  · rintro rfl
    have hnil : fold [] = [] := by cases caseSensitive <;> rfl
    have hend : (Rule.endsWith [] caseSensitive).accepts t = true := by
      rw [hends, hnil]
      exact ⟨fold t, (List.append_nil _).symm⟩
    exact ⟨occursIn_of_ends hend, hend⟩

open Text in
/-- A pattern that overlaps itself, in a text where only the last try succeeds. -/
theorem Registry.comparing_rules_exact_overlapping :
    let p : Text := "abA"
    let t : Text := "ABBabbABa"
    p.IsAscii ∧ t.IsAscii ∧ ∃ contains endsWith : Rule,
      Registry.builtin.build "contains" p false = .ok contains ∧
      Registry.builtin.build "endswith" p false = .ok endsWith ∧
      contains.accepts t = true ∧ endsWith.accepts t = true := by
  intro p t
  have hp : p.IsAscii := by decide
  have ht : t.IsAscii := by decide
  obtain ⟨contains, endsWith, hcontains, hends, h⟩ := Registry.comparing_rules_exact p false
  obtain ⟨-, -, hascii, himplies, -⟩ := h t
  have hletters : SameLetters p "ABa" := sameLetters_iff.2 (by decide)
  have hend : endsWith.accepts t = true := (hascii hp ht rfl).2.2 ⟨"ABBabb", "ABa", rfl, hletters⟩
  exact ⟨hp, ht, contains, endsWith, hcontains, hends, himplies hend, hend⟩

end TextSieve
