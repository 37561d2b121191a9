import TextSieve.Proofs.ExitCodes
import TextSieve.Proofs.Sinks

/-!
What a run says beside its output. There is a warning for every entry that was left out, then one
for a filter without rules, and last the failure of a run that fails. How it comes to these words is
written down as a relation with one rule for each course of a run. The lines of the log stand before
all of them, and there are none unless they are asked for.
-/

namespace TextSieve.Command

/-! ### The log -/

/-- All events of a reading are less important than warnings, and none is a mere trace. -/
lemma verbosity_level (e : Event) :
    Level.warn.verbosity < e.level.verbosity ∧ e.level.verbosity ≤ Level.debug.verbosity := by
  cases e <;> simp [Event.level, Level.verbosity]

lemma LogFilter.allows_upTo (n : ℕ) (target : Text) (level : Level) :
    (upTo n).allows target level = decide (level.verbosity ≤ n) := by
  simp [upTo, allows, deciding?, narrower]

/-- Unless it is asked to, the log takes no event of a reading. -/
lemma LogFilter.filter_default (es : List Event) :
    es.filter (fun e => (ofEnvironment none false).allows readingTarget e.level) = [] := by
  refine List.filter_eq_nil_iff.2 fun e _ => ?_
  have h := (verbosity_level e).1
  rw [ofEnvironment, Option.bind_none, Option.getD_none, ofVerbose, allows_upTo, decide_eq_true_iff]
  exact Nat.not_le.2 h

/-- If it is asked to, the log takes all events of a reading. -/
lemma LogFilter.filter_verbose (es : List Event) :
    es.filter (fun e => (ofEnvironment none true).allows readingTarget e.level) = es := by
  refine List.filter_eq_self.2 fun e _ => ?_
  rw [ofEnvironment, Option.bind_none, Option.getD_none, ofVerbose, allows_upTo, decide_eq_true_iff]
  exact (verbosity_level e).2

/-- The lines of the log for some events. -/
def logLines (i : Invocation) (time : Text) (es : List Event) : Text :=
  es.flatMap (logLine (i.color = .always) time)

/-- Of the notices about events those remain that the log takes. -/
lemma flatMap_text_event (log : LogFilter) (ansi : Bool) (time : Text) (es : List Event) :
    (es.map Notice.event).flatMap (Notice.text log ansi time) =
      (es.filter fun e => log.allows readingTarget e.level).flatMap (logLine ansi time) := by
  induction es with
  | nil => rfl
  | cons e es ih =>
    rw [List.map_cons, List.flatMap_cons, ih, List.filter_cons, Notice.text]
    split
    · rw [List.flatMap_cons]
    · rfl

lemma flatMap_text_line (log : LogFilter) (ansi : Bool) (time : Text) (ts : List Text) :
    (ts.map Notice.line).flatMap (Notice.text log ansi time) = ts.flatMap Text.line := by
  rw [List.flatMap_map]
  rfl

/-! ### The words of a run -/

/-- What a run has to say: which entries were left out, whether to warn of a filter without rules,
and why it fails, if it does. -/
structure Words where
  dropped : List Diagnostic
  noRules : Bool
  failure : Option Failure

namespace Words

/-- The warnings and the error, in the order in which they are written. -/
def lines (w : Words) : List Text :=
  w.dropped.map (fun d => "Warning: ".toList ++ d.message) ++
    (if w.noRules then ["Warning: Filter has no rules. Nothing will match.".toList] else []) ++
    w.failure.toList.map fun f => "Error: ".toList ++ f.message

def text (w : Words) : Text := w.lines.flatMap Text.line

end Words

/-- **What a run says**, for each course that it can take. -/
inductive Says (i : Invocation) (file : FileContent) (stdin : ByteArray) : Words → Prop
  | notLoaded {f : Failure} {events : List Event}
      (fails : load i.filter i.options file = (.error f, events)) :
      Says i file stdin ⟨[], false, some f⟩
  | validated {l : Loaded} {events : List Event}
      (loads : load i.filter i.options file = (.ok l, events)) (task : i.task = .validate) :
      Says i file stdin ⟨l.diagnostics, false, none⟩
  | badInput {l : Loaded} {events : List Event}
      (loads : load i.filter i.options file = (.ok l, events)) (task : i.task = .check [])
      (notText : Text.ofBytes? stdin = none) :
      Says i file stdin ⟨l.diagnostics, false, some (.input .notText)⟩
  | checked {l : Loaded} {events : List Event} {inputs xs : List Text}
      (loads : load i.filter i.options file = (.ok l, events)) (task : i.task = .check inputs)
      (supplied : Supplied inputs stdin xs) :
      Says i file stdin ⟨l.diagnostics, l.set.isEmpty, none⟩

section Says

variable {i : Invocation} {file : FileContent} {stdin : ByteArray} {w : Words}

/-- Every run takes one of the courses. -/
lemma exists_says (i : Invocation) (file : FileContent) (stdin : ByteArray) :
    ∃ w, Says i file stdin w := by
  cases hl : load i.filter i.options file with
  | mk loaded events =>
    cases loaded with
    | error f => exact ⟨_, .notLoaded hl⟩
    | ok l =>
      cases ht : i.task with
      | validate => exact ⟨_, .validated hl ht⟩
      | check inputs =>
        rcases exists_supplied_or inputs stdin with ⟨xs, hx⟩ | ⟨rfl, hstdin⟩
        · exact ⟨_, .checked hl ht hx⟩
        · exact ⟨_, .badInput hl ht hstdin⟩

lemma report_of_validate {l : Loaded} {events : List Event}
    (loads : load i.filter i.options file = (.ok l, events)) (task : i.task = .validate) :
    i.report file stdin =
      validate i.output i.color l (events.map .event ++ l.diagnostics.map .dropped) := by
  simp only [Invocation.report, loads, task]

lemma report_of_check {l : Loaded} {events : List Event} {inputs : List Text}
    (loads : load i.filter i.options file = (.ok l, events)) (task : i.task = .check inputs) :
    i.report file stdin = check i.output i.color inputs stdin l
      (events.map .event ++ l.diagnostics.map .dropped) := by
  simp only [Invocation.report, loads, task]

/-- The notices of a run are the events of its reading and, behind them, its words. The run fails
if and only if it has a failure to speak of, and then with the code of this failure. -/
lemma Says.report_eq (h : Says i file stdin w) :
    (i.report file stdin).notices =
        (load i.filter i.options file).2.map .event ++ w.lines.map .line ∧
      (∀ f, w.failure = some f → (i.report file stdin).code = f.code) ∧
      (w.failure = none → (i.report file stdin).code ∉ [2, 3, 4]) := by
  cases h with
  | notLoaded fails =>
    rw [report_of_failure fails, fails]
    exact ⟨rfl, fun f hf => congrArg Failure.code (Option.some.inj hf), nofun⟩
  | @validated l events loads task =>
    rw [report_of_validate loads task, loads]
    refine ⟨?_, nofun, fun _ => ?_⟩
    · simp [validate, Words.lines, Notice.dropped]
    · change (if l.diagnostics.isEmpty then 0 else 1) ∉ [2, 3, 4]
      split <;> decide
  | @badInput l events loads task notText =>
    rw [report_of_check loads task, check_of_notText notText, loads]
    refine ⟨?_, fun f hf => congrArg Failure.code (Option.some.inj hf), nofun⟩
    simp [Report.ofFailure, Words.lines, Notice.dropped, Notice.failed]
  | @checked l events inputs xs loads task supplied =>
    rw [report_of_check loads task, check_of_supplied supplied, loads]
    refine ⟨?_, nofun, fun _ => ?_⟩
    · cases l.set.isEmpty <;> simp [Words.lines, Notice.dropped, Notice.noRules]
    · change (if _ then 0 else 1) ∉ [2, 3, 4]
      split <;> decide

/-- The words are the end of what is written, whatever the log takes. -/
lemma Says.complaints_eq (h : Says i file stdin w) (verbose : Bool) (logSetting : Option Text)
    (time : Text) :
    (({ i with verbose := verbose } : Invocation).finish logSetting file stdin).complaints time =
      logLines i time ((load i.filter i.options file).2.filter fun e =>
        (LogFilter.ofEnvironment logSetting verbose).allows readingTarget e.level) ++ w.text := by
  change (i.report file stdin).notices.flatMap
    (Notice.text (.ofEnvironment logSetting verbose) (i.color = .always) time) = _
  rw [h.report_eq.1, List.flatMap_append, flatMap_text_event, flatMap_text_line]
  rfl

/-- If the filter loads, the entries that were left out are those that its reading reports, and
there is a warning of a filter without rules if it is one and there are inputs to check. -/
lemma Says.of_loaded (h : Says i file stdin w) {text : Text} {set : RuleSet}
    (holds : Holds file text) (hr : (RuleSet.report i.options text).result = .ok (some set)) :
    w.dropped = (Request.mk i.options .builtin (.text text)).reports ∧
      (w.noRules = true ↔ set.rules = [] ∧
        ∃ inputs xs, i.task = .check inputs ∧ Supplied inputs stdin xs) := by
  have hload : load i.filter i.options file = _ := load_of_set holds hr
  cases h with
  | notLoaded fails => cases hload.symm.trans fails
  | validated loads task =>
    cases hload.symm.trans loads
    refine ⟨rfl, nofun, ?_⟩
    rintro ⟨-, inputs, xs, hcheck, -⟩
    cases task.symm.trans hcheck
  | badInput loads task notText =>
    cases hload.symm.trans loads
    refine ⟨rfl, nofun, ?_⟩
    rintro ⟨-, inputs, xs, hcheck, hsupplied⟩
    cases task.symm.trans hcheck
    rcases hsupplied with ⟨hne, -⟩ | ⟨-, t, ht, -⟩
    · exact absurd rfl hne
    · cases notText.symm.trans ht
  | checked loads task supplied =>
    cases hload.symm.trans loads
    refine ⟨rfl, fun hempty => ⟨List.isEmpty_iff.1 hempty, _, _, task, supplied⟩, ?_⟩
    rintro ⟨hempty, -⟩
    exact List.isEmpty_iff.2 hempty

lemma Says.of_not_loaded (h : Says i file stdin w)
    (hnot : ∀ set, ¬ HoldsFilter i.options file set) :
    ∃ f, (load i.filter i.options file).1 = .error f ∧ w = ⟨[], false, some f⟩ := by
  obtain ⟨f, events, hload⟩ :=
    (holdsFilter_or_failure i.options file i.filter).resolve_left fun ⟨set, hf⟩ => hnot set hf
  cases h with
  | notLoaded fails =>
    refine ⟨_, congrArg Prod.fst fails, rfl⟩
  | validated loads _ => cases hload.symm.trans loads
  | badInput loads _ _ => cases hload.symm.trans loads
  | checked loads _ _ => cases hload.symm.trans loads

end Says

/-- **The complaints of a run** are its words and nothing else, unless the log is asked for: a
warning for each entry that was left out of the filter, in the order of the entries; if there are
inputs to check, one for a filter without rules; and last the failure, if and only if the code is
that of one. Without a filter there is no warning. The lines of the log all stand before the words,
which are the same whatever the log takes. -/
theorem complaints_exact (i : Invocation) (file : FileContent) (stdin : ByteArray) :
    let code := (i.report file stdin).code
    let events := (load i.filter i.options file).2
    let complaints := fun verbose logSetting =>
      (({ i with verbose := verbose } : Invocation).finish logSetting file stdin).complaints
    ∃ w : Words,
      (∀ time, complaints false none time = w.text) ∧
      (∀ time, complaints true none time = logLines i time events ++ w.text) ∧
      (∀ verbose logSetting time, ∃ es, es.Sublist events ∧
        complaints verbose logSetting time = logLines i time es ++ w.text) ∧
      (code ∈ [2, 3, 4] ↔ ∃ f, w.failure = some f) ∧ (∀ f, w.failure = some f → code = f.code) ∧
      ((∀ set, ¬ HoldsFilter i.options file set) →
        ∃ f, (load i.filter i.options file).1 = .error f ∧ w = ⟨[], false, some f⟩) ∧
      ∀ text set, Holds file text → (RuleSet.report i.options text).result = .ok (some set) →
        (w.dropped.Pairwise fun d e => d.index < e.index) ∧
        (∀ d, d ∈ w.dropped ↔ ∃ document name entries entry, i.skipInvalid = true ∧
          decode (i.format.resolve i.filter) text = .ok document ∧
          document.IsFilter name entries ∧ entries[d.index]? = some entry ∧
          Entry.Judged .builtin entry (.error d.kind)) ∧
        (w.noRules = true ↔ set.rules = [] ∧
          ∃ inputs xs, i.task = .check inputs ∧ Supplied inputs stdin xs) := by
  intro code events complaints
  obtain ⟨w, h⟩ := exists_says i file stdin
  obtain ⟨-, hfailure, hnone⟩ := h.report_eq
  refine ⟨w, fun time => ?_, fun time => ?_, fun verbose logSetting time => ?_,
    ⟨fun hcode => ?_, ?_⟩, hfailure, h.of_not_loaded, fun text set holds hr => ?_⟩
  · have hwritten := h.complaints_eq false none time
    rw [LogFilter.filter_default] at hwritten
    exact hwritten
  · have hwritten := h.complaints_eq true none time
    rw [LogFilter.filter_verbose] at hwritten
    exact hwritten
  · exact ⟨_, List.filter_sublist, h.complaints_eq verbose logSetting time⟩
  · exact Option.ne_none_iff_exists'.1 fun hw => hnone hw hcode
  · rintro ⟨f, hf⟩
    have hcode : code = f.code := hfailure f hf
    rw [hcode]
    exact f.code_mem
  · obtain ⟨hdropped, hempty⟩ := h.of_loaded holds hr
    refine ⟨?_, fun d => ?_, hempty⟩
    · rw [hdropped]
      exact Request.reports_pairwise _
    · rw [hdropped, Request.mem_reports]
      simp only [Request.Lenient, Request.document, and_assoc]
      rfl

end TextSieve.Command
