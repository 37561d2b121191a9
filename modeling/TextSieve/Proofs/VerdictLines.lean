import TextSieve.Output.Readable
import TextSieve.Proofs.InputLines
import TextSieve.Proofs.RecordDecoding

/-!
The lines for outcomes, read back. An input stands on its line as it is, between quotes that it can
imitate; but the line ends with the verdict, and read from there it tells the input and the verdict
apart. So the lines for inputs without line feeds lose nothing, and inputs from the standard input
are such.
-/

namespace TextSieve

/-! ### Lines from the standard input -/

namespace Text

lemma mem_of_mem_finishLine {c : Char} {x : Text} (h : c ∈ finishLine x) : c ∈ x := by
  unfold finishLine at h
  split at h
  · exact List.mem_cons_of_mem _ (List.mem_reverse.1 h)
  · exact List.mem_reverse.1 h

/-- The line that has been begun has no line feed as long as it goes on. -/
lemma newline_not_mem_linesFrom {current t : Text} (h : '\n' ∉ current) :
    ∀ x ∈ linesFrom current t, '\n' ∉ x := by
  fun_induction linesFrom current t with
  | case1 => exact List.forall_mem_nil _
  | case2 => exact List.forall_mem_singleton.2 fun hmem => h (List.mem_reverse.1 hmem)
  | case3 current t ih =>
    exact List.forall_mem_cons.2 ⟨fun hmem => h (mem_of_mem_finishLine hmem), ih List.not_mem_nil⟩
  | case4 current c t hc ih =>
    refine ih fun hmem => ?_
    rcases List.mem_cons.1 hmem with rfl | hmem
    · exact hc rfl
    · exact h hmem

/-- **No line that is read has a line feed in it.** -/
theorem newline_not_mem_of_readLines {bytes : ByteArray} {xs : List Text}
    (h : readLines? bytes = some xs) : ∀ x ∈ xs, '\n' ∉ x := by
  obtain ⟨t, -, rfl⟩ := Option.map_eq_some_iff.1 h
  exact newline_not_mem_linesFrom List.not_mem_nil

end Text

/-- What is told of an outcome: the input and the verdict on it. -/
def Outcome.told (o : Outcome) : Text × Bool := (o.input, o.matched)

namespace Readable

/-! ### One line -/

/-- What stands on a line behind the input. -/
def ending (matched : Bool) : Text := "\" matches? ".toList ++ Text.ofBool matched

/-- The line that tells an input and the verdict on it. -/
def verdictLine (p : Text × Bool) : Text := '"' :: p.1 ++ ending p.2

/-- Reads a line from its end: the ending tells the verdict, and the input is what stands between
the first quote and the ending. -/
def readVerdict (l : Text) : Text × Bool :=
  let matched := (ending true).isSuffixOf l
  ((l.drop 1).take (l.length - (ending matched).length - 1), matched)

/-- No text before an ending makes it look like the other one. -/
lemma isSuffixOf_verdictLine (x : Text) (matched : Bool) :
    (ending true).isSuffixOf (verdictLine (x, matched)) = matched := by
  have hending : ending matched <:+ verdictLine (x, matched) := ⟨'"' :: x, rfl⟩
  cases matched with
  | true => exact List.isSuffixOf_iff_suffix.2 hending
  | false =>
    rw [Bool.eq_false_iff, ne_eq, List.isSuffixOf_iff_suffix]
    intro h
    have hsuffix := List.suffix_of_suffix_length_le h hending (by decide)
    exact absurd hsuffix (by decide)

lemma readVerdict_verdictLine (p : Text × Bool) : readVerdict (verdictLine p) = p := by
  obtain ⟨x, matched⟩ := p
  have hlength : (verdictLine (x, matched)).length - (ending matched).length - 1 = x.length := by
    simp only [verdictLine, List.cons_append, List.length_cons, List.length_append]
    omega
  have hdrop : (verdictLine (x, matched)).drop 1 = x ++ ending matched := rfl
  unfold readVerdict
  simp only [isSuffixOf_verdictLine, hlength, hdrop, List.take_left]

/-- All that is written around an input is plain. -/
lemma mem_of_mem_verdictLine {p : Text × Bool} {c : Char} (hc : c.toNat < 0x20)
    (h : c ∈ verdictLine p) : c ∈ p.1 := by
  have hquote : Text.Plain ['"'] := by decide
  have hending : ∀ matched, Text.Plain (ending matched) := by decide
  exact hquote.mem_between (hending p.2) hc h

lemma newline_not_mem_verdictLine {p : Text × Bool} (h : '\n' ∉ p.1) : '\n' ∉ verdictLine p :=
  fun hmem => h (mem_of_mem_verdictLine (by decide) hmem)

lemma isLine_verdictLine {p : Text × Bool} (h : '\n' ∉ p.1) : Text.IsLine (verdictLine p) := by
  have hlast : ∀ matched, (ending matched).getLast? = some 'e' := by decide
  refine ⟨newline_not_mem_verdictLine h, ?_⟩
  rw [verdictLine, List.getLast?_append, hlast, Option.some_or]
  decide

/-! ### All lines -/

/-- Reads the verdicts on inputs from their lines. -/
def readVerdicts (t : Text) : List (Text × Bool) := t.lines.map readVerdict

lemma outcomesText_eq (os : List Outcome) :
    outcomesText os = (os.map fun o => verdictLine o.told).flatMap Text.line := by
  have hpieces : ∀ (x s v : Text) (colour : Colour),
      Styled.plain [.text ('"' :: x ++ s), .setStyle colour true, .text v, .reset, .text ['\n']] =
        Text.line ('"' :: x ++ (s ++ v)) := by
    intro x s v colour
    simp [Styled.plain, Styled.plainPiece, Text.line]
  have houtcome : ∀ o : Outcome,
      (outcome o).flatMap Styled.plainPiece = Text.line (verdictLine o.told) :=
    fun o => hpieces o.input _ _ _
  unfold outcomesText outcomes Styled.plain
  rw [List.flatMap_assoc, List.flatMap_map]
  simp only [houtcome]

section Outcomes

variable {os : List Outcome} (h : ∀ o ∈ os, '\n' ∉ o.input)

include h

lemma madeOf_outcomesText :
    Text.MadeOf (outcomesText os) (os.map fun o => verdictLine o.told) := by
  refine ⟨outcomesText_eq os, fun l hl => ?_⟩
  obtain ⟨o, ho, rfl⟩ := List.mem_map.1 hl
  exact newline_not_mem_verdictLine (h o ho)

lemma readVerdicts_outcomesText : readVerdicts (outcomesText os) = os.map Outcome.told := by
  have hlines : ∀ l ∈ os.map fun o => verdictLine o.told, Text.IsLine l := by
    intro l hl
    obtain ⟨o, ho, rfl⟩ := List.mem_map.1 hl
    exact isLine_verdictLine (h o ho)
  rw [readVerdicts, outcomesText_eq, Text.lines_flatMap_line hlines, List.map_map]
  exact List.map_congr_left fun o _ => readVerdict_verdictLine o.told

end Outcomes

/-- **The lines for outcomes are unambiguous.** For inputs without line feeds there is one line for
each outcome, in order, and the inputs with the verdicts on them are read back from the lines,
whatever the inputs look like. So two lists of outcomes with the same lines tell the same. The lines
of any standard input are such inputs, and what is read back for them are the verdicts of the rule
set. -/
theorem outcomes_unambiguous :
    (∀ os : List Outcome, (∀ o ∈ os, '\n' ∉ o.input) →
      (∀ ls, Text.MadeOf (outcomesText os) ls ↔ ls = os.map fun o => verdictLine o.told) ∧
      readVerdicts (outcomesText os) = os.map Outcome.told) ∧
    (∀ os os' : List Outcome, (∀ o ∈ os, '\n' ∉ o.input) → (∀ o ∈ os', '\n' ∉ o.input) →
      outcomesText os = outcomesText os' → os.map Outcome.told = os'.map Outcome.told) ∧
    ∀ stdin xs, Text.readLines? stdin = some xs → (∀ x ∈ xs, '\n' ∉ x) ∧
      ∀ set : RuleSet, readVerdicts (outcomesText (set.evaluate xs)) =
        xs.map fun x => (x, set.accepts x) := by
  refine ⟨fun os h => ⟨fun _ => (madeOf_outcomesText h).iff_eq, readVerdicts_outcomesText h⟩,
    fun os os' h h' heq => ?_, fun stdin xs hread => ?_⟩
  · rw [← readVerdicts_outcomesText h, heq, readVerdicts_outcomesText h']
  · have hlines := Text.newline_not_mem_of_readLines hread
    refine ⟨hlines, fun set => ?_⟩
    have hinputs : ∀ o ∈ set.evaluate xs, '\n' ∉ o.input := by
      rw [RuleSet.evaluate_eq_map]
      intro o ho
      obtain ⟨x, hx, rfl⟩ := List.mem_map.1 ho
      exact hlines x hx
    rw [readVerdicts_outcomesText hinputs, RuleSet.evaluate_eq_map, List.map_map]
    refine List.map_congr_left fun x _ => Prod.ext rfl ?_
    exact RuleSet.isSome_firstMatch set x

/-- Inputs that look like the end of a line, and an empty one. -/
theorem outcomes_unambiguous_imitations :
    let os : List Outcome :=
      [⟨"\" matches? true", none⟩, ⟨"a\" matches? false\" matches? ", some 2⟩, ⟨"", none⟩]
    let told : List (Text × Bool) :=
      [("\" matches? true", false), ("a\" matches? false\" matches? ", true), ("", false)]
    (∀ o ∈ os, '\n' ∉ o.input) ∧ readVerdicts (outcomesText os) = told := by
  intro os told
  have hos : ∀ o ∈ os, '\n' ∉ o.input := by decide
  exact ⟨hos, (outcomes_unambiguous.1 os hos).2⟩

end Readable

end TextSieve
