import TextSieve.Proofs.ExitCodes
import TextSieve.Proofs.Export

/-!
Inputs from the command line and inputs from the standard input. Texts that can stand on a line
each are read back from their lines, so a check of them does not depend on how they are supplied.
-/

namespace TextSieve

/-! ### Lines of a text -/

namespace Text

/-- The text can stand on a line of its own: nothing in it ends a line, and nothing at its end is
taken for part of the end of a line. -/
def IsLine (x : Text) : Prop := '\n' ∉ x ∧ x.getLast? ≠ some '\r'

instance (x : Text) : Decidable (IsLine x) :=
  inferInstanceAs (Decidable ('\n' ∉ x ∧ x.getLast? ≠ some '\r'))

lemma finishLine_reverse {x : Text} (h : x.getLast? ≠ some '\r') : finishLine x.reverse = x := by
  unfold finishLine
  split
  · next t ht =>
    rw [← List.head?_reverse, ht] at h
    exact absurd rfl h
  · exact List.reverse_reverse x

/-- Up to the next line feed, all characters are part of the line that has been begun. By induction
on these characters, with what has been read of the line before them. -/
lemma linesFrom_append (current : Text) {x : Text} (h : '\n' ∉ x) (t : Text) :
    linesFrom current (x ++ '\n' :: t) = finishLine (x.reverse ++ current) :: linesFrom [] t := by
  induction x generalizing current with
  | nil => rfl
  | cons c x ih =>
    obtain ⟨hc, hx⟩ := not_or.1 fun hmem => h (List.mem_cons.2 hmem)
    rw [List.cons_append, linesFrom, ih _ hx, List.reverse_cons, List.append_assoc]
    · rfl
    · exact fun hnl => hc hnl.symm

/-- **Texts are read back from their lines.** -/
theorem lines_flatMap_line {xs : List Text} (h : ∀ x ∈ xs, IsLine x) :
    lines (xs.flatMap line) = xs := by
  unfold lines
  induction xs with
  | nil => rfl
  | cons x xs ih =>
    obtain ⟨⟨hnl, hcr⟩, hxs⟩ := List.forall_mem_cons.1 h
    have hline : (x :: xs).flatMap line = x ++ '\n' :: xs.flatMap line := by
      rw [List.flatMap_cons, line, List.append_assoc]
      rfl
    rw [hline, linesFrom_append [] hnl, List.append_nil, finishLine_reverse hcr, ih hxs]

end Text

/-! ### Checks -/

namespace Command

/-- The bytes of lines, one for each text. -/
def linesOf (xs : List Text) : ByteArray := (String.ofList (xs.flatMap Text.line)).toByteArray

/-- The lines of texts supply what the texts on the command line do. -/
lemma supplied_linesOf {xs : List Text} (h : ∀ x ∈ xs, Text.IsLine x) :
    Supplied [] (linesOf xs) xs :=
  Or.inr ⟨rfl, xs.flatMap Text.line, ofBytes?_toByteArray _, (Text.lines_flatMap_line h).symm⟩

/-- A check depends on what inputs are supplied, and not on the way in which they are. -/
lemma report_checking_of_supplied (i : Invocation) (file : FileContent)
    {inputs inputs' xs : List Text} {stdin stdin' : ByteArray} (h : Supplied inputs stdin xs)
    (h' : Supplied inputs' stdin' xs) :
    (i.checking inputs).report file stdin = (i.checking inputs').report file stdin' := by
  rcases holdsFilter_or_failure i.options file i.filter with ⟨set, hf⟩ | ⟨f, events, hl⟩
  · obtain ⟨l, events, -, hl⟩ := hf.exists_load i.filter
    rw [report_checking hl, report_checking hl, check_of_supplied h, check_of_supplied h']
  · rw [report_of_failure (i := i.checking inputs) hl,
      report_of_failure (i := i.checking inputs') hl]

/-- **It does not matter how the inputs are supplied.** Let some inputs, at least one, each be such
as can stand on a line. A check of them on the command line, whatever the standard input, and a
check of the standard input with each of them on a line end alike: with the same code, the same
output, and the same complaints, also when the filter cannot be loaded. -/
theorem finish_arguments_eq_lines (i : Invocation) (logSetting : Option Text) (file : FileContent)
    {inputs : List Text} (hne : inputs ≠ []) (hline : ∀ x ∈ inputs, Text.IsLine x)
    (stdin : ByteArray) :
    (i.checking inputs).finish logSetting file stdin =
      (i.checking []).finish logSetting file (linesOf inputs) := by
  have hreport := report_checking_of_supplied i file (Or.inl ⟨hne, rfl⟩ : Supplied inputs stdin _)
    (supplied_linesOf hline)
  unfold Invocation.finish
  rw [hreport]
  rfl

/-- The file of a set holds the set. -/
lemma holdsFilter_toDocument {set : RuleSet} {skipInvalid : Bool}
    (h : (RuleSet.ofValue skipInvalid .builtin .collect set.toDocument []).result =
      .ok (some set)) :
    HoldsFilter ⟨skipInvalid, .json⟩ (.ok (String.ofList (Json.write set.toDocument)).toByteArray)
      set := by
  refine ⟨_, holds_toByteArray _, ?_⟩
  simp only [RuleSet.report, RuleSet.ofText, decode_write set.legible_toDocument, h]

/-- Three inputs, of which one is empty and two have a carriage return inside, are all read. -/
theorem finish_arguments_eq_lines_returns :
    let set : RuleSet := ⟨"F", [.endsWith "\rb" true]⟩
    let file : FileContent := .ok (String.ofList (Json.write set.toDocument)).toByteArray
    let i : Invocation := ⟨.validate, "f", false, .json, .jsonl, .never, false⟩
    let inputs : List Text := ["a\rb", "", "a\rb"]
    inputs ≠ [] ∧ (∀ x ∈ inputs, Text.IsLine x) ∧
      (i.checking inputs).finish none file .empty =
        (i.checking []).finish none file (linesOf inputs) ∧
      ((i.checking []).report file (linesOf inputs)).code = 0 := by
  intro set file i inputs
  have hline : ∀ x ∈ inputs, Text.IsLine x := by decide
  have hne : inputs ≠ [] := List.cons_ne_nil _ _
  have hset : HoldsFilter i.options file set := holdsFilter_toDocument rfl
  refine ⟨hne, hline, finish_arguments_eq_lines i none file hne hline .empty, ?_⟩
  rw [code_of_supplied hset (supplied_linesOf hline)]
  exact ⟨"a\rb", List.mem_cons_self, _, List.mem_singleton_self _, rfl⟩

end Command

end TextSieve
