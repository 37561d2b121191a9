import TextSieve.Command.Run
import TextSieve.Proofs.Evaluation
import TextSieve.Proofs.RecordLines

/-!
The exit codes of a check. How a check ends is written down as a relation with one rule for each
way; each rule says what the file, the inputs and the rules must be like, and a run ends in the one
way that the relation allows.
-/

namespace TextSieve.Command

/-! ### Files and inputs -/

/-- The file can be read, and it holds the text. -/
def Holds (file : FileContent) (text : Text) : Prop :=
  ∃ bytes, file = .ok bytes ∧ Text.ofBytes? bytes = some text

/-- The file holds a filter, which gives the set. -/
def HoldsFilter (options : ReadOptions) (file : FileContent) (set : RuleSet) : Prop :=
  ∃ text, Holds file text ∧ (RuleSet.report options text).result = .ok (some set)

/-- The inputs of a check are those of the command line; if there are none, they are the lines of
the standard input, which is a text. -/
def Supplied (inputs : List Text) (stdin : ByteArray) (xs : List Text) : Prop :=
  inputs ≠ [] ∧ xs = inputs ∨
    inputs = [] ∧ ∃ text, Text.ofBytes? stdin = some text ∧ xs = Text.lines text

section Files

variable {file : FileContent} {options : ReadOptions} {path text : Text}

/-- The bytes of a text are read as the text. -/
lemma ofBytes?_toByteArray (t : Text) :
    Text.ofBytes? (String.ofList t).toByteArray = some t := by
  have hutf8 := (String.ofList t).isValidUTF8
  have hread : String.fromUTF8? (String.ofList t).toByteArray = some (String.ofList t) := by
    unfold String.fromUTF8?
    rw [dif_pos hutf8]
    rfl
  rw [Text.ofBytes?, hread, Option.map_some, String.toList_ofList]

/-- A text can be read from the file of its bytes. -/
lemma holds_toByteArray (t : Text) : Holds (.ok (String.ofList t).toByteArray) t :=
  ⟨_, rfl, ofBytes?_toByteArray t⟩

lemma textOf_of_holds (h : Holds file text) : textOf file = .ok text := by
  obtain ⟨bytes, rfl, ht⟩ := h
  simp only [textOf, bind, Except.bind, ht]

lemma textOf_of_not_holds (h : ∀ text, ¬ Holds file text) :
    ∃ fault, textOf file = .error fault := by
  cases file with
  | error fault => exact ⟨fault, rfl⟩
  | ok bytes =>
    cases ht : Text.ofBytes? bytes with
    | some t => exact absurd ⟨bytes, rfl, ht⟩ (h t)
    | none =>
      refine ⟨.notText, ?_⟩
      simp only [textOf, bind, Except.bind, ht]

lemma load_of_not_holds (h : ∀ text, ¬ Holds file text) :
    ∃ fault, ∀ path options, load path options file = (.error (.read path fault), []) := by
  obtain ⟨fault, hf⟩ := textOf_of_not_holds h
  exact ⟨fault, fun path options => by simp only [load, hf]⟩

lemma load_of_error {e : FilterError} (h : Holds file text)
    (hr : (RuleSet.report options text).result = .error e) :
    load path options file = (.error (.filter e), (RuleSet.report options text).events) := by
  simp only [load, textOf_of_holds h, hr]

lemma load_of_none (h : Holds file text) (hr : (RuleSet.report options text).result = .ok none) :
    load path options file = (.error (.notAFilter path), (RuleSet.report options text).events) := by
  simp only [load, textOf_of_holds h, hr]

lemma load_of_set {set : RuleSet} (h : Holds file text)
    (hr : (RuleSet.report options text).result = .ok (some set)) :
    load path options file =
      (.ok ⟨set, (RuleSet.report options text).sink⟩, (RuleSet.report options text).events) := by
  simp only [load, textOf_of_holds h, hr]

lemma HoldsFilter.exists_load {set : RuleSet} (h : HoldsFilter options file set) (path : Text) :
    ∃ l events, l.set = set ∧ load path options file = (.ok l, events) := by
  obtain ⟨text, ht, hr⟩ := h
  exact ⟨_, _, rfl, load_of_set ht hr⟩

/-- A file that gives no set fails to load. -/
lemma holdsFilter_or_failure (options : ReadOptions) (file : FileContent) (path : Text) :
    (∃ set, HoldsFilter options file set) ∨
      ∃ f events, load path options file = (.error f, events) := by
  by_cases ht : ∃ text, Holds file text
  · obtain ⟨text, ht⟩ := ht
    cases hr : (RuleSet.report options text).result with
    | error e => exact Or.inr ⟨_, _, load_of_error ht hr⟩
    | ok outcome =>
      cases outcome with
      | none => exact Or.inr ⟨_, _, load_of_none ht hr⟩
      | some set => exact Or.inl ⟨set, text, ht, hr⟩
  · obtain ⟨fault, hf⟩ := load_of_not_holds fun text h => ht ⟨text, h⟩
    exact Or.inr ⟨_, _, hf path options⟩

lemma inputsOf_of_supplied {inputs xs : List Text} {stdin : ByteArray}
    (h : Supplied inputs stdin xs) : inputsOf inputs stdin = .ok xs := by
  unfold inputsOf
  rcases h with ⟨hne, rfl⟩ | ⟨rfl, text, ht, rfl⟩
  · rw [if_neg (by simpa using hne)]
  · rw [if_pos (by rfl), Text.readLines?, ht]
    rfl

lemma inputsOf_of_notText {stdin : ByteArray} (h : Text.ofBytes? stdin = none) :
    inputsOf [] stdin = .error (.input .notText) := by
  rw [inputsOf, if_pos (by rfl), Text.readLines?, h]
  rfl

/-- There are inputs, unless they are to be read from something that is no text. -/
lemma exists_supplied_or (inputs : List Text) (stdin : ByteArray) :
    (∃ xs, Supplied inputs stdin xs) ∨ inputs = [] ∧ Text.ofBytes? stdin = none := by
  cases inputs with
  | cons x xs => exact Or.inl ⟨x :: xs, Or.inl ⟨List.cons_ne_nil _ _, rfl⟩⟩
  | nil =>
    cases ht : Text.ofBytes? stdin with
    | some text => exact Or.inl ⟨_, Or.inr ⟨rfl, text, ht, rfl⟩⟩
    | none => exact Or.inr ⟨rfl, rfl⟩

end Files

/-! ### Reports -/

lemma Failure.code_mem (f : Failure) : f.code ∈ [2, 3, 4] := by
  cases f <;> simp [Failure.code]

/-- The same run as a check of inputs. -/
def Invocation.checking (i : Invocation) (inputs : List Text) : Invocation :=
  { i with task := .check inputs }

section Reports

variable {i : Invocation} {inputs : List Text} {file : FileContent} {stdin : ByteArray}
  {events : List Event}

lemma report_of_failure {f : Failure} (h : load i.filter i.options file = (.error f, events))
    (stdin : ByteArray) : i.report file stdin = .ofFailure f (events.map .event) := by
  simp only [Invocation.report, h]

lemma report_checking {l : Loaded} (h : load i.filter i.options file = (.ok l, events)) :
    (i.checking inputs).report file stdin =
      check i.output i.color inputs stdin l
        (events.map .event ++ l.diagnostics.map .dropped) := by
  have h' : load (i.checking inputs).filter (i.checking inputs).options file = (.ok l, events) := h
  simp only [Invocation.report, h']
  rfl

lemma check_of_supplied {output : OutputStyle} {color : ColorChoice} {xs : List Text} {l : Loaded}
    {notices : List Notice} (h : Supplied inputs stdin xs) :
    check output color inputs stdin l notices =
      ⟨if (l.set.evaluate xs).any (·.matched) then 0 else 1,
        checkOutput output color l.set (l.set.evaluate xs),
        notices ++ if l.set.isEmpty then [.noRules] else []⟩ := by
  simp only [check, inputsOf_of_supplied h]

lemma check_of_notText {output : OutputStyle} {color : ColorChoice} {l : Loaded}
    {notices : List Notice} (h : Text.ofBytes? stdin = none) :
    check output color [] stdin l notices = .ofFailure (.input .notText) notices := by
  simp only [check, inputsOf_of_notText h]

/-- The report of a check with a filter and inputs. -/
lemma report_of_supplied {set : RuleSet} {xs : List Text} (h : HoldsFilter i.options file set)
    (hx : Supplied inputs stdin xs) :
    ((i.checking inputs).report file stdin).code =
        (if (set.evaluate xs).any (·.matched) then 0 else 1) ∧
      ((i.checking inputs).report file stdin).output =
        checkOutput i.output i.color set (set.evaluate xs) := by
  obtain ⟨l, events, rfl, hl⟩ := h.exists_load i.filter
  rw [report_checking hl, check_of_supplied hx]
  exact ⟨rfl, rfl⟩

end Reports

/-! ### How a check ends -/

/-- **How a check ends**, and with which code. -/
inductive CheckEnds (options : ReadOptions) (file : FileContent) (inputs : List Text)
    (stdin : ByteArray) : ℕ → Prop
  | unreadable (h : ∀ text, ¬ Holds file text) : CheckEnds options file inputs stdin 2
  | badInput {set : RuleSet} (filter : HoldsFilter options file set) (noInputs : inputs = [])
      (notText : Text.ofBytes? stdin = none) : CheckEnds options file inputs stdin 2
  | invalid {text : Text} {e : FilterError} (holds : Holds file text)
      (error : (RuleSet.report options text).result = .error e) :
      CheckEnds options file inputs stdin 3
  | notAFilter {text : Text} (holds : Holds file text)
      (nothing : (RuleSet.report options text).result = .ok none) :
      CheckEnds options file inputs stdin 4
  | matched {set : RuleSet} {xs : List Text} (filter : HoldsFilter options file set)
      (supplied : Supplied inputs stdin xs)
      (accepted : ∃ x ∈ xs, ∃ r ∈ set.rules, r.accepts x = true) :
      CheckEnds options file inputs stdin 0
  | unmatched {set : RuleSet} {xs : List Text} (filter : HoldsFilter options file set)
      (supplied : Supplied inputs stdin xs)
      (refused : ∀ x ∈ xs, ∀ r ∈ set.rules, r.accepts x = false) :
      CheckEnds options file inputs stdin 1

section Ends

variable {i : Invocation} {inputs : List Text} {file : FileContent} {stdin : ByteArray}

lemma code_of_supplied {set : RuleSet} {xs : List Text} (h : HoldsFilter i.options file set)
    (hx : Supplied inputs stdin xs) :
    ((i.checking inputs).report file stdin).code = 0 ↔
      ∃ x ∈ xs, ∃ r ∈ set.rules, r.accepts x = true := by
  rw [(report_of_supplied h hx).1, ← RuleSet.any_matched_evaluate_iff]
  split <;> simp_all

/-- The code of a run is the one of the way in which it ends. -/
lemma CheckEnds.code_eq {n : ℕ} (h : CheckEnds i.options file inputs stdin n) :
    ((i.checking inputs).report file stdin).code = n := by
  cases h with
  | unreadable h =>
    obtain ⟨fault, hf⟩ := load_of_not_holds h
    rw [report_of_failure (i := i.checking inputs) (hf _ _)]
    rfl
  | badInput filter noInputs notText =>
    obtain ⟨l, events, -, hl⟩ := filter.exists_load i.filter
    rw [report_checking hl, noInputs, check_of_notText notText]
    rfl
  | invalid holds error =>
    rw [report_of_failure (i := i.checking inputs) (load_of_error holds error)]
    rfl
  | notAFilter holds nothing =>
    rw [report_of_failure (i := i.checking inputs) (load_of_none holds nothing)]
    rfl
  | matched filter supplied accepted => exact (code_of_supplied filter supplied).2 accepted
  | unmatched filter supplied refused =>
    rw [(report_of_supplied filter supplied).1, if_neg]
    rw [RuleSet.any_matched_evaluate_iff]
    rintro ⟨x, hx, r, hr, hacc⟩
    rw [refused x hx r hr] at hacc
    cases hacc

/-- Every check ends in one of the ways. -/
lemma exists_checkEnds (options : ReadOptions) (file : FileContent) (inputs : List Text)
    (stdin : ByteArray) : ∃ n, CheckEnds options file inputs stdin n := by
  by_cases ht : ∃ text, Holds file text
  · obtain ⟨text, ht⟩ := ht
    cases hr : (RuleSet.report options text).result with
    | error e => exact ⟨3, .invalid ht hr⟩
    | ok outcome =>
      cases outcome with
      | none => exact ⟨4, .notAFilter ht hr⟩
      | some set =>
        have hf : HoldsFilter options file set := ⟨text, ht, hr⟩
        rcases exists_supplied_or inputs stdin with ⟨xs, hx⟩ | ⟨hnone, hstdin⟩
        · by_cases hm : ∃ x ∈ xs, ∃ r ∈ set.rules, r.accepts x = true
          · exact ⟨0, .matched hf hx hm⟩
          · refine ⟨1, .unmatched hf hx fun x hx r hr => ?_⟩
            exact Bool.eq_false_iff.2 fun hacc => hm ⟨x, hx, r, hr, hacc⟩
        · exact ⟨2, .badInput hf hnone hstdin⟩
  · exact ⟨2, .unreadable fun text h => ht ⟨text, h⟩⟩

lemma checkEnds_iff {n : ℕ} :
    CheckEnds i.options file inputs stdin n ↔
      ((i.checking inputs).report file stdin).code = n := by
  refine ⟨CheckEnds.code_eq, ?_⟩
  rintro rfl
  obtain ⟨n, h⟩ := exists_checkEnds i.options file inputs stdin
  rwa [h.code_eq]

/-- A check either fails, or has a filter and inputs. -/
lemma failure_or_supplied (i : Invocation) (inputs : List Text) (file : FileContent)
    (stdin : ByteArray) :
    (∃ f notices, (i.checking inputs).report file stdin = .ofFailure f notices) ∨
      ∃ set xs, HoldsFilter i.options file set ∧ Supplied inputs stdin xs := by
  rcases holdsFilter_or_failure i.options file i.filter with ⟨set, hf⟩ | ⟨f, events, hl⟩
  · rcases exists_supplied_or inputs stdin with ⟨xs, hx⟩ | ⟨rfl, hstdin⟩
    · exact Or.inr ⟨set, xs, hf, hx⟩
    · obtain ⟨l, events, -, hl⟩ := hf.exists_load i.filter
      exact Or.inl ⟨.input .notText, _,
        (report_checking hl).trans (check_of_notText hstdin)⟩
  · exact Or.inl ⟨f, _, report_of_failure (i := i.checking inputs) hl stdin⟩

/-- A check does not look at the standard input if it has inputs or no filter. -/
lemma report_checking_stdin (h : inputs ≠ [] ∨ ∀ set, ¬ HoldsFilter i.options file set)
    (stdin stdin' : ByteArray) :
    (i.checking inputs).report file stdin' = (i.checking inputs).report file stdin := by
  rcases holdsFilter_or_failure i.options file i.filter with ⟨set, hf⟩ | ⟨f, events, hl⟩
  · obtain ⟨l, events, -, hl⟩ := hf.exists_load i.filter
    rcases h with h | h
    · have hx : ∀ s, Supplied inputs s inputs := fun s => Or.inl ⟨h, rfl⟩
      rw [report_checking hl, report_checking hl, check_of_supplied (hx stdin),
        check_of_supplied (hx stdin')]
    · exact absurd hf (h set)
  · have hr := report_of_failure (i := i.checking inputs) hl
    rw [hr stdin, hr stdin']

/-! ### What the records say -/

lemma lookup_matched_outcomeFields (o : Outcome) :
    (Records.outcomeFields o).lookup ("matched" : Text) = some (.bool o.matched) := rfl

/-- The records of a check tell whether some input was accepted, in two ways. -/
lemma exists_records {set : RuleSet} {xs : List Text} (hj : i.output = .jsonl)
    (h : HoldsFilter i.options file set) (hx : Supplied inputs stdin xs) :
    let report := (i.checking inputs).report file stdin
    ∃ (answers : List Record) (summary : Record) (n : ℕ),
      (∀ rs, Records.Lists report.output rs ↔ rs = answers ++ [summary]) ∧
      (∀ m ∈ answers, m.lookup ("type" : Text) = some (.str "match")) ∧
      summary.lookup ("type" : Text) = some (.str "summary") ∧
      summary.lookup ("matched" : Text) = some (.int n) ∧
      (report.code = 0 ↔ 1 ≤ n) ∧
      (report.code = 0 ↔ ∃ m ∈ answers, m.lookup ("matched" : Text) = some (.bool true)) := by
  intro report
  have hout : report.output = Records.outcomes set.name (set.evaluate xs) := by
    rw [(report_of_supplied h hx).2, hj]
    rfl
  have hcode : report.code = 0 ↔ ∃ o ∈ set.evaluate xs, o.matched = true := by
    rw [code_of_supplied h hx, ← RuleSet.any_matched_evaluate_iff, List.any_eq_true]
  refine ⟨(set.evaluate xs).map Records.outcomeFields,
    Records.checkSummary set.name (set.evaluate xs), (set.evaluate xs).countP (·.matched),
    fun rs => ?_, ?_, rfl, rfl, ?_, ?_⟩
  · rw [hout]
    exact (Records.lists_outcomes set.name (set.evaluate xs)).iff_eq
  · intro m hm
    obtain ⟨o, -, rfl⟩ := List.mem_map.1 hm
    rfl
  · rw [hcode]
    exact List.countP_pos_iff.symm
  · rw [hcode]
    simp only [List.mem_map, exists_exists_and_eq_and, lookup_matched_outcomeFields,
      Option.some.injEq, Value.bool.injEq]

end Ends

/-- **The code of a check classifies the run.** It is 2 if the file cannot be read as a text, or if
the filter is there but the inputs are not; 3 if the text of the file is refused; 4 if it is no
filter; otherwise 0 if some input is accepted by some rule, and 1 if none is. With the codes 2, 3
and 4 there is no output. The standard input counts only for a filter without inputs. The records
of an output for programs tell the code 0 from 1. -/
theorem check_code (i : Invocation) (inputs : List Text) (file : FileContent)
    (stdin : ByteArray) :
    let report := (i.checking inputs).report file stdin
    (report.code = 2 ↔ (∀ text, ¬ Holds file text) ∨
      (∃ set, HoldsFilter i.options file set) ∧ inputs = [] ∧ Text.ofBytes? stdin = none) ∧
    (report.code = 3 ↔
      ∃ text e, Holds file text ∧ (RuleSet.report i.options text).result = .error e) ∧
    (report.code = 4 ↔
      ∃ text, Holds file text ∧ (RuleSet.report i.options text).result = .ok none) ∧
    (report.code = 0 ↔ ∃ set xs, HoldsFilter i.options file set ∧ Supplied inputs stdin xs ∧
      ∃ x ∈ xs, ∃ r ∈ set.rules, r.accepts x = true) ∧
    (report.code = 1 ↔ ∃ set xs, HoldsFilter i.options file set ∧ Supplied inputs stdin xs ∧
      ∀ x ∈ xs, ∀ r ∈ set.rules, r.accepts x = false) ∧
    report.code ∈ [0, 1, 2, 3, 4] ∧
    (report.code ∈ [2, 3, 4] → report.output = []) ∧
    (inputs ≠ [] ∨ (∀ set, ¬ HoldsFilter i.options file set) →
      ∀ stdin', (i.checking inputs).report file stdin' = report) ∧
    (i.output = .jsonl → report.code ∈ [0, 1] →
      ∃ (answers : List Record) (summary : Record) (n : ℕ),
        (∀ rs, Records.Lists report.output rs ↔ rs = answers ++ [summary]) ∧
        (∀ m ∈ answers, m.lookup ("type" : Text) = some (.str "match")) ∧
        summary.lookup ("type" : Text) = some (.str "summary") ∧
        summary.lookup ("matched" : Text) = some (.int n) ∧
        (report.code = 0 ↔ 1 ≤ n) ∧
        (report.code = 0 ↔ ∃ m ∈ answers, m.lookup ("matched" : Text) = some (.bool true))) := by
  intro report
  refine ⟨?_, ?_, ?_, ?_, ?_, ?_, fun hcode => ?_, fun h stdin' => report_checking_stdin h _ _,
    fun hj hcode => ?_⟩
  · rw [← checkEnds_iff]
    constructor
    · intro h
      cases h with
      | unreadable h => exact Or.inl h
      | badInput filter noInputs notText => exact Or.inr ⟨⟨_, filter⟩, noInputs, notText⟩
    · rintro (h | ⟨⟨set, filter⟩, noInputs, notText⟩)
      · exact .unreadable h
      · exact .badInput filter noInputs notText
  · rw [← checkEnds_iff]
    constructor
    · intro h
      cases h with
      | invalid holds error => exact ⟨_, _, holds, error⟩
    · rintro ⟨text, e, holds, error⟩
      exact .invalid holds error
  · rw [← checkEnds_iff]
    constructor
    · intro h
      cases h with
      | notAFilter holds nothing => exact ⟨_, holds, nothing⟩
    · rintro ⟨text, holds, nothing⟩
      exact .notAFilter holds nothing
  · rw [← checkEnds_iff]
    constructor
    · intro h
      cases h with
      | matched filter supplied accepted => exact ⟨_, _, filter, supplied, accepted⟩
    · rintro ⟨set, xs, filter, supplied, accepted⟩
      exact .matched filter supplied accepted
  · rw [← checkEnds_iff]
    constructor
    · intro h
      cases h with
      | unmatched filter supplied refused => exact ⟨_, _, filter, supplied, refused⟩
    · rintro ⟨set, xs, filter, supplied, refused⟩
      exact .unmatched filter supplied refused
  · obtain ⟨n, h⟩ := exists_checkEnds i.options file inputs stdin
    rw [h.code_eq]
    cases h <;> decide
  · rcases failure_or_supplied i inputs file stdin with ⟨f, notices, h⟩ | ⟨set, xs, hf, hx⟩
    · exact congrArg Report.output h
    · rw [(report_of_supplied hf hx).1] at hcode
      split at hcode <;> exact absurd hcode (by decide)
  · rcases failure_or_supplied i inputs file stdin with ⟨f, notices, h⟩ | ⟨set, xs, hf, hx⟩
    · have hf := f.code_mem
      rw [show report.code = f.code from congrArg Report.code h] at hcode
      simp only [List.mem_cons, List.not_mem_nil, or_false] at hcode hf
      omega
    · exact exists_records hj hf hx

end TextSieve.Command
