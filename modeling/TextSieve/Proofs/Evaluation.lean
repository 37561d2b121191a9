import Mathlib.Data.List.Basic
import Mathlib.Tactic.Lemma
import TextSieve.Filter.Basic

/-!
What a rule set says about texts. The first match of a text is the first rule that accepts it, and
the outcomes for many texts are the outcomes for each of them, in whatever parts they are
evaluated.
-/

namespace TextSieve

/-! ### Evaluation in parts -/

/-- Results of evaluating a list that is split at will. A part is nothing, one item, or two parts,
the results of which are put one behind the other. -/
inductive Gathered {α β : Type} (f : α → β) : List α → List β → Prop
  | nothing : Gathered f [] []
  | one (x : α) : Gathered f [x] [f x]
  | both {xs xs' : List α} {ys ys' : List β} (front : Gathered f xs ys)
      (back : Gathered f xs' ys') : Gathered f (xs ++ xs') (ys ++ ys')

/-- However a list is split, the results are those for each item in order. -/
theorem gathered_iff {α β : Type} {f : α → β} {xs : List α} {ys : List β} :
    Gathered f xs ys ↔ ys = xs.map f := by
  constructor
  · intro h
    induction h with
    | nothing => rfl
    | one x => rfl
    | both _ _ hfront hback => rw [hfront, hback, List.map_append]
  · rintro rfl
    induction xs with
    | nil => exact .nothing
    | cons x xs ih =>
      have h : Gathered f ([x] ++ xs) ([f x] ++ xs.map f) := .both (.one x) ih
      exact h

namespace RuleSet

/-! ### One text and many -/

variable {set : RuleSet} {text : Text}

lemma firstMatch_eq_some_iff {i : ℕ} :
    set.firstMatch text = some i ↔ ∃ r, set.rules[i]? = some r ∧ r.accepts text = true ∧
      ∀ j < i, ∀ q, set.rules[j]? = some q → q.accepts text = false := by
  unfold firstMatch
  rw [List.findIdx?_eq_some_iff_getElem]
  constructor
  · rintro ⟨hi, hr, hfirst⟩
    refine ⟨set.rules[i], List.getElem?_eq_getElem hi, hr, fun j hj q hq => ?_⟩
    obtain ⟨hlt, rfl⟩ := List.getElem?_eq_some_iff.1 hq
    exact Bool.eq_false_iff.2 (hfirst j hj)
  · rintro ⟨r, hr, hacc, hfirst⟩
    obtain ⟨hi, rfl⟩ := List.getElem?_eq_some_iff.1 hr
    refine ⟨hi, hacc, fun j hj => ?_⟩
    exact Bool.eq_false_iff.1 (hfirst j hj _ (List.getElem?_eq_getElem (Nat.lt_trans hj hi)))

lemma firstMatch_eq_none_iff :
    set.firstMatch text = none ↔ ∀ r ∈ set.rules, r.accepts text = false :=
  List.findIdx?_eq_none_iff

lemma isSome_firstMatch_iff :
    (set.firstMatch text).isSome = true ↔ ∃ r ∈ set.rules, r.accepts text = true := by
  rw [firstMatch, List.findIdx?_isSome, List.any_eq_true]

lemma evaluate_eq_map (set : RuleSet) (texts : List Text) :
    set.evaluate texts = texts.map fun t => ⟨t, set.firstMatch t⟩ := by
  unfold evaluate firstMatches
  induction texts with
  | nil => rfl
  | cons t ts ih => rw [List.map_cons, List.zip_cons_cons, List.map_cons, ih, List.map_cons]

lemma any_matched_evaluate_iff {texts : List Text} :
    (set.evaluate texts).any (·.matched) = true ↔
      ∃ t ∈ texts, ∃ r ∈ set.rules, r.accepts t = true := by
  rw [evaluate_eq_map, List.any_map, List.any_eq_true]
  simp only [Function.comp_apply, Outcome.matched, isSome_firstMatch_iff]

lemma isSome_firstMatch (set : RuleSet) (text : Text) :
    (set.firstMatch text).isSome = set.accepts text :=
  List.findIdx?_isSome

/-! ### Other rules -/

/-- The verdict depends on which rules there are, not on their order and number. -/
lemma accepts_congr {other : RuleSet} (h : ∀ r, r ∈ other.rules ↔ r ∈ set.rules) (text : Text) :
    other.accepts text = set.accepts text := by
  rw [Bool.eq_iff_iff, accepts, accepts, List.any_eq_true, List.any_eq_true]
  constructor
  · rintro ⟨r, hr, hacc⟩
    exact ⟨r, (h r).1 hr, hacc⟩
  · rintro ⟨r, hr, hacc⟩
    exact ⟨r, (h r).2 hr, hacc⟩

/-- Rules behind a match do not change it. -/
lemma firstMatch_append {i : ℕ} (h : set.firstMatch text = some i) (name : Text)
    (more : List Rule) : firstMatch ⟨name, set.rules ++ more⟩ text = some i := by
  unfold firstMatch at h ⊢
  rw [List.findIdx?_append, h]
  rfl

/-- **All ways of evaluating texts compute one disjunction.** The first match of a text is the
position of the first rule that accepts it, and there is a match exactly if the set accepts the
text. Many texts, in whatever parts they are evaluated, have one result each, in order, which is
the result for the text alone; the outcomes pair the texts with these results. So the verdict on a
text depends on which rules there are, not on their order and number, and rules that are put behind
the others leave every match as it was. -/
theorem evaluations_agree (set : RuleSet) :
    (∀ text : Text,
      (∀ i, set.firstMatch text = some i ↔
        i < set.size ∧ (∃ r, set.rules[i]? = some r ∧ r.accepts text = true) ∧
          ∀ j < i, ∀ q, set.rules[j]? = some q → q.accepts text = false) ∧
      (set.firstMatch text = none ↔ ∀ r ∈ set.rules, r.accepts text = false) ∧
      (set.accepts text = true ↔ ∃ i, set.firstMatch text = some i)) ∧
    (∀ texts : List Text,
      (∀ results, Gathered set.firstMatch texts results ↔ results = set.firstMatches texts) ∧
      (∀ results, Gathered set.accepts texts results ↔ results = set.acceptsAll texts) ∧
      (set.firstMatches texts).length = texts.length ∧
      (set.acceptsAll texts).length = texts.length ∧
      (set.evaluate texts).length = texts.length ∧
      ∀ (k : ℕ) (t : Text), texts[k]? = some t →
        (set.firstMatches texts)[k]? = some (set.firstMatch t) ∧
        (set.acceptsAll texts)[k]? = some (set.accepts t) ∧
        ∃ o : Outcome, (set.evaluate texts)[k]? = some o ∧ o.input = t ∧
          o.rule = set.firstMatch t ∧ o.matched = set.accepts t) ∧
    (∀ other : RuleSet, (∀ r, r ∈ other.rules ↔ r ∈ set.rules) →
      ∀ text, other.accepts text = set.accepts text) ∧
    ∀ (more : List Rule) (text : Text) (i : ℕ), set.firstMatch text = some i →
      firstMatch ⟨set.name, set.rules ++ more⟩ text = some i := by
  refine ⟨fun text => ⟨fun i => ?_, firstMatch_eq_none_iff, ?_⟩, fun texts => ?_,
    fun other h => accepts_congr h, fun more text i h => firstMatch_append h set.name more⟩
  · rw [firstMatch_eq_some_iff]
    constructor
    · rintro ⟨r, hr, hacc, hfirst⟩
      have hi : i < set.size := (List.getElem?_eq_some_iff.1 hr).1
      exact ⟨hi, ⟨r, hr, hacc⟩, hfirst⟩
    · rintro ⟨-, ⟨r, hr, hacc⟩, hfirst⟩
      exact ⟨r, hr, hacc, hfirst⟩
  · rw [← isSome_firstMatch, Option.isSome_iff_exists]
  · refine ⟨fun _ => gathered_iff, fun _ => gathered_iff, List.length_map .., List.length_map ..,
      ?_, fun k t hk => ⟨?_, ?_, ⟨t, set.firstMatch t⟩, ?_, rfl, rfl, isSome_firstMatch set t⟩⟩
    · rw [evaluate_eq_map, List.length_map]
    · rw [firstMatches, List.getElem?_map, hk, Option.map_some]
    · rw [acceptsAll, List.getElem?_map, hk, Option.map_some]
    · rw [evaluate_eq_map, List.getElem?_map, hk, Option.map_some]

end RuleSet

end TextSieve
