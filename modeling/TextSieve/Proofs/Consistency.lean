import TextSieve.Proofs.ExitCodes
import TextSieve.Proofs.Export

/-!
Checks and validations of one file. They fail together and for the same reason. When they do not
fail, the rules can be built again from the records of the validation, and the records of the check
name the first of these rules that accepts an input.
-/

namespace TextSieve

/-- A rule from a document is what the builtin methods make of what the rule says of itself. -/
lemma RuleSet.build_of_mem_report {options : ReadOptions} {text : Text} {set : RuleSet}
    (h : (RuleSet.report options text).result = .ok (some set)) {r : Rule} (hr : r ∈ set.rules) :
    Registry.builtin.build r.method r.pattern r.caseSensitive = .ok r := by
  unfold RuleSet.report RuleSet.ofText at h
  cases hd : decode options.format text with
  | error e =>
    rw [hd] at h
    cases h
  | ok document =>
    rw [hd] at h
    obtain ⟨name, entries, -, rfl⟩ := RuleSet.eq_kept_of_ofValue h
    obtain ⟨entry, -, he⟩ := List.mem_map.1 (Verdict.mem_kept.1 hr)
    obtain ⟨m, hm, hc⟩ := Entry.exists_method_of_read he
    rw [hm, Registry.build_of_find? (Registry.find?_name m), hc]

namespace Records

/-! ### Rules from records -/

/-- The record is about a rule at a position, and the builtin methods make the rule of its
fields. -/
def Rebuilds (fields : Record) (index : ℕ) (r : Rule) : Prop :=
  fields.lookup ("type" : Text) = some (.str "rule") ∧
    fields.lookup ("index" : Text) = some (.int index) ∧
    ∃ method pattern caseSensitive,
      fields.lookup ("method" : Text) = some (.str method) ∧
      fields.lookup ("pattern" : Text) = some (.str pattern) ∧
      fields.lookup ("case_sensitive" : Text) = some (.bool caseSensitive) ∧
      Registry.builtin.build method pattern caseSensitive = .ok r

/-- The record is about the input. It names the first rule of a listing that accepts the input, or
none if there is none. -/
structure Answers (listing : List Record) (x : Text) (fields : Record) : Prop where
  type : fields.lookup ("type" : Text) = some (.str "match")
  input : fields.lookup ("input" : Text) = some (.str x)
  first : ∀ k : ℕ, fields.lookup ("rule" : Text) = some (.int k) ↔
    ∃ u ∈ listing, ∃ r, Rebuilds u k r ∧ r.accepts x = true ∧
      ∀ v ∈ listing, ∀ j < k, ∀ q, Rebuilds v j q → q.accepts x = false
  none : fields.lookup ("rule" : Text) = some .null ↔
    ∀ u ∈ listing, ∀ k r, Rebuilds u k r → r.accepts x = false

/-- Every rule of the set is what the builtin methods make of what it says of itself. -/
def Rebuildable (set : RuleSet) : Prop :=
  ∀ r ∈ set.rules, Registry.builtin.build r.method r.pattern r.caseSensitive = .ok r

section Listing

variable {set : RuleSet} {ds : List Diagnostic} {fields : Record}

lemma exists_ruleFields (h : fields ∈ listingRecords set ds)
    (type : fields.lookup ("type" : Text) = some (.str "rule")) :
    ∃ k r, set.rules[k]? = some r ∧ fields = ruleFields k r := by
  have hne : ("diagnostic" : Text) ≠ "rule" ∧ ("summary" : Text) ≠ "rule" := by decide
  let P (u : Record) : Prop := u.lookup ("type" : Text) = some (.str "rule") →
    ∃ k r, set.rules[k]? = some r ∧ u = ruleFields k r
  have hP : ∀ u ∈ listingRecords set ds, P u := by
    refine forall_mem_listingRecords (fun k r hr _ => ?_) (fun d _ type => ?_) fun type => ?_
    · exact ⟨k, r, hr, rfl⟩
    · exact absurd (Value.str.inj (Option.some.inj type)) hne.1
    · exact absurd (Value.str.inj (Option.some.inj type)) hne.2
  exact hP fields h type

lemma ruleFields_mem {k : ℕ} {r : Rule} (h : set.rules[k]? = some r) :
    ruleFields k r ∈ listingRecords set ds := by
  unfold listingRecords
  rw [List.mem_append, List.mem_append]
  exact Or.inl (Or.inl (List.mem_map.2 ⟨(r, k), List.mem_zipIdx_iff_getElem?.2 h, rfl⟩))

lemma rebuilds_ruleFields_iff (hset : Rebuildable set) {j k : ℕ} {q r : Rule}
    (h : set.rules[j]? = some q) : Rebuilds (ruleFields j q) k r ↔ j = k ∧ q = r := by
  have hq := hset q (List.mem_of_getElem? h)
  constructor
  · rintro ⟨-, hk, method, pattern, caseSensitive, hm, hp, hc, hr⟩
    obtain rfl : q.method = method := Value.str.inj (Option.some.inj hm)
    obtain rfl : q.pattern = pattern := Value.str.inj (Option.some.inj hp)
    obtain rfl : q.caseSensitive = caseSensitive := Value.bool.inj (Option.some.inj hc)
    have hjk : (j : Int) = k := Value.int.inj (Option.some.inj hk)
    exact ⟨Int.ofNat.inj hjk, Except.ok.inj (hq.symm.trans hr)⟩
  · rintro ⟨rfl, rfl⟩
    exact ⟨rfl, rfl, _, _, _, rfl, rfl, rfl, hq⟩

/-- **The rules of a set are what its listing gives back**, at their positions. -/
theorem exists_rebuilds_iff (hset : Rebuildable set) (ds : List Diagnostic) {k : ℕ} {r : Rule} :
    (∃ u ∈ listingRecords set ds, Rebuilds u k r) ↔ set.rules[k]? = some r := by
  constructor
  · rintro ⟨u, hu, h⟩
    obtain ⟨j, q, hq, rfl⟩ := exists_ruleFields hu h.1
    obtain ⟨rfl, rfl⟩ := (rebuilds_ruleFields_iff hset hq).1 h
    exact hq
  · intro h
    exact ⟨ruleFields k r, ruleFields_mem h, (rebuilds_ruleFields_iff hset h).2 ⟨rfl, rfl⟩⟩

lemma exists_rebuilds (hset : Rebuildable set) (h : fields ∈ listingRecords set ds)
    (type : fields.lookup ("type" : Text) = some (.str "rule")) : ∃ k r, Rebuilds fields k r := by
  obtain ⟨k, r, hr, rfl⟩ := exists_ruleFields h type
  exact ⟨k, r, (rebuilds_ruleFields_iff hset hr).2 ⟨rfl, rfl⟩⟩

lemma lookup_rule_eq_int {o : Outcome} {k : ℕ} :
    (outcomeFields o).lookup ("rule" : Text) = some (.int k) ↔ o.rule = some k := by
  change some ((o.rule.map count).getD .null) = _ ↔ _
  cases o.rule with
  | none => simp
  | some j =>
    simp only [Option.map_some, Option.getD_some, count, Option.some.injEq, Value.int.injEq]
    exact Int.ofNat_inj

lemma lookup_rule_eq_null {o : Outcome} :
    (outcomeFields o).lookup ("rule" : Text) = some .null ↔ o.rule = none := by
  change some ((o.rule.map count).getD .null) = _ ↔ _
  cases o.rule with
  | none => simp
  | some j => simp [count]

/-- The record of an input answers from the listing of the same set. -/
lemma answers_outcomeFields (hset : Rebuildable set) (ds : List Diagnostic) (x : Text) :
    Answers (listingRecords set ds) x (outcomeFields ⟨x, set.firstMatch x⟩) where
  type := rfl
  input := rfl
  first k := by
    rw [lookup_rule_eq_int, RuleSet.firstMatch_eq_some_iff]
    constructor
    · rintro ⟨r, hr, hacc, hfirst⟩
      obtain ⟨u, hu, hb⟩ := (exists_rebuilds_iff hset ds).2 hr
      exact ⟨u, hu, r, hb, hacc, fun v hv j hj q hq =>
        hfirst j hj q ((exists_rebuilds_iff hset ds).1 ⟨v, hv, hq⟩)⟩
    · rintro ⟨u, hu, r, hb, hacc, hfirst⟩
      refine ⟨r, (exists_rebuilds_iff hset ds).1 ⟨u, hu, hb⟩, hacc, fun j hj q hq => ?_⟩
      obtain ⟨v, hv, hb⟩ := (exists_rebuilds_iff hset ds).2 hq
      exact hfirst v hv j hj q hb
  none := by
    rw [lookup_rule_eq_null, RuleSet.firstMatch_eq_none_iff]
    constructor
    · intro h u hu k r hb
      exact h r (List.mem_of_getElem? ((exists_rebuilds_iff hset ds).1 ⟨u, hu, hb⟩))
    · intro h r hr
      obtain ⟨k, hk⟩ := List.mem_iff_getElem?.1 hr
      obtain ⟨u, hu, hb⟩ := (exists_rebuilds_iff hset ds).2 hk
      exact h u hu k r hb

end Listing

end Records

namespace Command

/-! ### The two runs -/

section Runs

variable {i : Invocation} {file : FileContent} {stdin : ByteArray} {events : List Event}

/-- The same run as a validation. -/
def Invocation.validating (i : Invocation) : Invocation := { i with task := .validate }

lemma report_validating {l : Loaded} (h : load i.filter i.options file = (.ok l, events)) :
    i.validating.report file stdin =
      validate i.output i.color l (events.map .event ++ l.diagnostics.map .dropped) := by
  have h' : load i.validating.filter i.validating.options file = (.ok l, events) := h
  simp only [Invocation.report, h']
  rfl

lemma HoldsFilter.rebuildable {options : ReadOptions} {set : RuleSet}
    (h : HoldsFilter options file set) : Records.Rebuildable set := by
  obtain ⟨text, -, hr⟩ := h
  exact fun r hmem => RuleSet.build_of_mem_report hr hmem

lemma code_validating_of_holdsFilter {set : RuleSet} (h : HoldsFilter i.options file set) :
    (i.validating.report file stdin).code ∉ [2, 3, 4] := by
  obtain ⟨l, events, -, hl⟩ := h.exists_load i.filter
  rw [report_validating hl]
  change (if l.diagnostics.isEmpty then 0 else 1) ∉ [2, 3, 4]
  split <;> decide

lemma code_checking_of_supplied {set : RuleSet} {inputs xs : List Text}
    (h : HoldsFilter i.options file set) (hx : Supplied inputs stdin xs) :
    ((i.checking inputs).report file stdin).code ∉ [2, 3, 4] := by
  rw [(report_of_supplied h hx).1]
  split <;> decide

end Runs

/-- **A check and a validation of one file tell the same story.** A check with inputs on its
command line fails exactly when a validation does, with the same code, no output, and the same
notices, of which the error comes last. If neither fails, every rule record of the validation
gives a rule, and the records of the check, one for each input, answer from these rules. -/
theorem check_agrees_with_validate (filter : Text) (skipInvalid : Bool) (format : FormatChoice)
    (file : FileContent) (color color' : ColorChoice) (verbose verbose' : Bool) :
    let check := fun inputs output => Invocation.report
      ⟨.check inputs, filter, skipInvalid, format, output, color, verbose⟩ file
    let validate := fun output => Invocation.report
      ⟨.validate, filter, skipInvalid, format, output, color', verbose'⟩ file
    (∀ (x : Text) (xs : List Text) (output output' : OutputStyle) (stdin stdin' : ByteArray),
      let c := check (x :: xs) output stdin
      let v := validate output' stdin'
      (v.code ∈ [2, 3, 4] ↔ c.code ∈ [2, 3, 4]) ∧
        (c.code ∈ [2, 3, 4] → v.code = c.code ∧ c.output = [] ∧ v.output = [] ∧
          ∃ (f : Failure) (events : List Event),
            c.notices = events.map .event ++ [.failed f] ∧ v.notices = c.notices)) ∧
    ∀ (inputs : List Text) (stdin stdin' : ByteArray),
      let c := check inputs .jsonl stdin
      let v := validate .jsonl stdin'
      c.code ∉ [2, 3, 4] → v.code ∉ [2, 3, 4] →
        ∃ (xs : List Text) (answers listing : List Record) (summary : Record),
          Supplied inputs stdin xs ∧
          (∀ rs, Records.Lists c.output rs ↔ rs = answers ++ [summary]) ∧
          (∀ rs, Records.Lists v.output rs ↔ rs = listing) ∧
          (∀ u ∈ listing, u.lookup ("type" : Text) = some (.str "rule") →
            ∃ k r, Records.Rebuilds u k r) ∧
          List.Forall₂ (Records.Answers listing) xs answers := by
  intro check validate
  -- both runs read the filter in the same way
  let run (output : OutputStyle) : Invocation :=
    ⟨.validate, filter, skipInvalid, format, output, color, verbose⟩
  let run' (output : OutputStyle) : Invocation :=
    ⟨.validate, filter, skipInvalid, format, output, color', verbose'⟩
  refine ⟨fun x xs output output' stdin stdin' => ?_, fun inputs stdin stdin' => ?_⟩
  · rcases holdsFilter_or_failure (run output).options file filter with
      ⟨set, hf⟩ | ⟨f, events, hl⟩
    · have hx : Supplied (x :: xs) stdin (x :: xs) := Or.inl ⟨List.cons_ne_nil _ _, rfl⟩
      have hc : (check (x :: xs) output stdin).code ∉ [2, 3, 4] :=
        code_checking_of_supplied (i := run output) hf hx
      have hv : (validate output' stdin').code ∉ [2, 3, 4] :=
        code_validating_of_holdsFilter (i := run' output') hf
      exact ⟨⟨fun h => absurd h hv, fun h => absurd h hc⟩, fun h => absurd h hc⟩
    · have hc : check (x :: xs) output stdin = .ofFailure f (events.map .event) :=
        report_of_failure (i := (run output).checking (x :: xs)) hl stdin
      have hv : validate output' stdin' = .ofFailure f (events.map .event) :=
        report_of_failure (i := run' output') hl stdin'
      rw [hc, hv]
      exact ⟨Iff.rfl, fun _ => ⟨rfl, rfl, rfl, f, events, rfl, rfl⟩⟩
  · intro c v hc hv
    rcases failure_or_supplied (run .jsonl) inputs file stdin with
      ⟨f, notices, h⟩ | ⟨set, xs, hf, hx⟩
    · have hcode : c.code = f.code := congrArg Report.code h
      exact absurd (hcode ▸ f.code_mem) hc
    · obtain ⟨l, events, rfl, hl⟩ := hf.exists_load filter
      have hcout : c.output = Records.outcomes l.set.name (l.set.evaluate xs) :=
        (report_of_supplied (i := run .jsonl) hf hx).2
      have hvout : v.output = Records.listing l.set l.diagnostics :=
        congrArg Report.output (report_validating (i := run' .jsonl) hl)
      refine ⟨xs, (l.set.evaluate xs).map Records.outcomeFields,
        Records.listingRecords l.set l.diagnostics,
        Records.checkSummary l.set.name (l.set.evaluate xs), hx, fun rs => ?_, fun rs => ?_,
        fun u hu => Records.exists_rebuilds hf.rebuildable hu, ?_⟩
      · rw [hcout]
        exact (Records.lists_outcomes l.set.name (l.set.evaluate xs)).iff_eq
      · rw [hvout]
        exact (Records.lists_listing l.set l.diagnostics).iff_eq
      · rw [RuleSet.evaluate_eq_map, List.map_map, List.forall₂_map_right_iff, List.forall₂_same]
        exact fun x _ => Records.answers_outcomeFields hf.rebuildable l.diagnostics x

end Command

end TextSieve
