import TextSieve.Proofs.Export
import TextSieve.Proofs.Sinks

/-!
The errors that readings end with. An error about the text, one about an entry and one about a rule
are told apart by what they carry: a rule that could not be made is never blamed on the form of its
entry, and an unknown method is never blamed on a pattern, also if constructors of the registry say
so. What strict reading fails with belongs to the first entry that is at fault.
-/

namespace TextSieve

open Verdict

/-! ### Faults of rules -/

/-- A pattern is at fault if and only if the error is about a pattern. -/
lemma DiagnosticKind.ofRuleError_eq_patternCompile_iff {e e' : RuleError} :
    ofRuleError e = .patternCompile e' ↔
      e = e' ∧ ∃ pattern message, e = .invalidRegex pattern message := by
  cases e with
  | invalidRegex pattern message =>
    simp only [ofRuleError, patternCompile.injEq, RuleError.invalidRegex.injEq]
    exact ⟨fun h => ⟨h, _, _, rfl, rfl⟩, And.left⟩
  | unknownMethod method valid =>
    simp only [ofRuleError]
    exact ⟨nofun, fun ⟨_, _, _, h⟩ => nomatch h⟩

lemma DiagnosticKind.ofRuleError_eq_unknownMethod_iff {e : RuleError} {method : Text}
    {valid : List Text} :
    ofRuleError e = .unknownMethod method valid ↔ e = .unknownMethod method valid := by
  cases e with
  | invalidRegex pattern message => exact ⟨nofun, nofun⟩
  | unknownMethod m v => simp only [ofRuleError, unknownMethod.injEq, RuleError.unknownMethod.injEq]

/-- A builtin method refuses nothing but expressions that cannot be compiled. -/
lemma Method.error_of_constructor {m : Method} {pattern : Text} {caseSensitive : Bool}
    {e : RuleError} (h : m.constructor pattern caseSensitive = .error e) :
    m = .regex ∧ ∃ message, e = .invalidRegex pattern message := by
  cases m with
  | contains => cases h
  | endsWith => cases h
  | regex =>
    simp only [Method.constructor, Rule.regex] at h
    cases hc : Regex.compile pattern with
    | error fault =>
      rw [hc] at h
      exact ⟨rfl, _, (Except.error.inj h).symm⟩
    | ok r =>
      rw [hc] at h
      cases h

/-! ### Faults of entries -/

namespace Entry

section Judged

variable {registry : Registry} {entry : Value}

/-- The entry asks the constructor of a method for a rule. -/
def Asks (registry : Registry) (entry : Value) (method : Text) (c : Constructor) (pattern : Text)
    (caseSensitive : Bool) : Prop :=
  ∃ members, entry = .obj members ∧ members.lookup ("method" : Text) = some (.str method) ∧
    members.lookup ("text" : Text) = some (.str pattern) ∧ CaseFlag members caseSensitive ∧
    registry.find? method = some c

/-- A pattern is at fault when the constructor says so. -/
lemma Judged.exists_asks_of_patternCompile {e : RuleError}
    (h : Judged registry entry (.error (.patternCompile e))) :
    (∃ method c pattern caseSensitive, Asks registry entry method c pattern caseSensitive ∧
        c pattern caseSensitive = .error e) ∧
      ∃ pattern message, e = .invalidRegex pattern message := by
  generalize hv : (Except.error (.patternCompile e) : Verdict) = v at h
  cases h with
  | @built members m t b c hasText hasMethod known flag =>
    obtain ⟨e', hc, he⟩ := mapError_eq_error hv.symm
    obtain ⟨rfl, hregex⟩ := DiagnosticKind.ofRuleError_eq_patternCompile_iff.1 he.symm
    exact ⟨⟨m, c, t, b, ⟨members, rfl, hasMethod, hasText, flag, known⟩, hc⟩, hregex⟩
  | _ => cases hv

/-- A method is unknown if it is not registered, or if the constructor says so. -/
lemma Judged.unknownMethod_cases {method : Text} {valid : List Text}
    (h : Judged registry entry (.error (.unknownMethod method valid))) :
    (method ∉ registry.methods ∧ valid = registry.methods) ∨
      ∃ name c pattern caseSensitive, Asks registry entry name c pattern caseSensitive ∧
        c pattern caseSensitive = .error (.unknownMethod method valid) := by
  generalize hv : (Except.error (.unknownMethod method valid) : Verdict) = v at h
  cases h with
  | unknownMethod hasText hasMethod unknown =>
    cases hv
    exact Or.inl ⟨unknown, rfl⟩
  | @built members m t b c hasText hasMethod known flag =>
    obtain ⟨e', hc, he⟩ := mapError_eq_error hv.symm
    obtain rfl := DiagnosticKind.ofRuleError_eq_unknownMethod_iff.1 he.symm
    exact Or.inr ⟨m, c, t, b, ⟨members, rfl, hasMethod, hasText, flag, known⟩, hc⟩
  | _ => cases hv

end Judged

section Builtin

variable {entry : Value}

/-- With the builtin methods, a pattern at fault is the text of an entry for an expression. -/
lemma Judged.regex_of_patternCompile {e : RuleError}
    (h : Judged .builtin entry (.error (.patternCompile e))) :
    ∃ members pattern message, entry = .obj members ∧
      members.lookup ("method" : Text) = some (.str "regex") ∧
      members.lookup ("text" : Text) = some (.str pattern) ∧ e = .invalidRegex pattern message := by
  obtain ⟨⟨method, c, pattern, b, ⟨members, rfl, hm, ht, -, known⟩, hc⟩, -⟩ :=
    h.exists_asks_of_patternCompile
  obtain ⟨m, rfl, rfl⟩ := Registry.eq_of_find?_builtin known
  obtain ⟨rfl, message, rfl⟩ := Method.error_of_constructor hc
  exact ⟨members, pattern, message, rfl, hm, ht, rfl⟩

lemma Judged.not_mem_of_unknownMethod {method : Text} {valid : List Text}
    (h : Judged .builtin entry (.error (.unknownMethod method valid))) : method ∉ valid := by
  rcases h.unknownMethod_cases with ⟨hm, rfl⟩ | ⟨name, c, pattern, b, hasks, hc⟩
  · exact hm
  · obtain ⟨members, -, -, -, -, known⟩ := hasks
    obtain ⟨m, -, rfl⟩ := Registry.eq_of_find?_builtin known
    obtain ⟨-, message, he⟩ := Method.error_of_constructor hc
    cases he

end Builtin

end Entry

/-! ### The first fault of a document -/

/-- Before the first fault there are rules only. -/
lemma Verdict.first_of_faults {vs : List Verdict} {d : Diagnostic} {ds : List Diagnostic}
    (h : faults 0 vs = d :: ds) :
    vs[d.index]? = some (.error d.kind) ∧
      ∀ j < d.index, ∀ v, vs[j]? = some v → ∃ r, v = .ok r := by
  have hsorted := faults_pairwise 0 vs
  have hd : d ∈ faults 0 vs := by
    rw [h]
    exact List.mem_cons_self
  refine ⟨(mem_faults.1 hd).2, fun j hj v hv => ?_⟩
  cases v with
  | ok r => exact ⟨r, rfl⟩
  | error k =>
    have hk : (⟨j, k⟩ : Diagnostic) ∈ faults 0 vs := mem_faults.2 ⟨Nat.zero_le j, hv⟩
    rw [h] at hk hsorted
    rcases List.mem_cons.1 hk with rfl | hlater
    · exact absurd hj (Nat.lt_irrefl j)
    · have hlt : d.index < j := (List.pairwise_cons.1 hsorted).1 _ hlater
      exact absurd hj (Nat.lt_asymm hlt)

/-- The entry stands at an index of the document, has the fault, and is the first to have one. -/
def FirstFault (registry : Registry) (document : Value) (i : ℕ) (entry : Value)
    (kind : DiagnosticKind) : Prop :=
  ∃ name entries, document.IsFilter name entries ∧ entries[i]? = some entry ∧
    Entry.Judged registry entry (.error kind) ∧
    ∀ j < i, ∀ e, entries[j]? = some e → ∃ r, Entry.Judged registry e (.ok r)

lemma FirstFault.judged {registry : Registry} {document entry : Value} {i : ℕ}
    {kind : DiagnosticKind} (h : FirstFault registry document i entry kind) :
    Entry.Judged registry entry (.error kind) := by
  obtain ⟨_, _, -, -, hj, -⟩ := h
  exact hj

lemma firstFault_of_faults {registry : Registry} {document name : Value} {entries : List Value}
    {d : Diagnostic} {ds : List Diagnostic} (hf : document.IsFilter name entries)
    (h : faults 0 (Entry.verdicts registry entries) = d :: ds) :
    ∃ entry, FirstFault registry document d.index entry d.kind := by
  obtain ⟨hat, hbefore⟩ := Verdict.first_of_faults h
  rw [Entry.verdicts, List.getElem?_map, Option.map_eq_some_iff] at hat
  obtain ⟨entry, hentry, hread⟩ := hat
  refine ⟨entry, name, entries, hf, hentry, Entry.judged_iff.2 hread, fun j hj e he => ?_⟩
  have hv : (Entry.verdicts registry entries)[j]? = some (Entry.read registry e) := by
    rw [Entry.verdicts, List.getElem?_map, he, Option.map_some]
  obtain ⟨r, hr⟩ := hbefore j hj _ hv
  exact ⟨r, Entry.judged_iff.2 hr⟩

/-- Reading a tree fails in strict mode only, and with its first fault. -/
theorem RuleSet.exists_firstFault {σ : Type} {skipInvalid : Bool} {registry : Registry}
    {sink : Sink σ} {document : Value} {s : σ} {e : FilterError}
    (h : (ofValue skipInvalid registry sink document s).result = .error e) :
    skipInvalid = false ∧ ∃ i entry kind, FirstFault registry document i entry kind ∧
      e = Diagnostic.toError ⟨i, kind⟩ := by
  rcases document.lacksFilters_or_isFilter with hlacks | ⟨name, entries, hd⟩
  · obtain ⟨event, he⟩ := ofValue_of_lacksFilters hlacks
    rw [he] at h
    cases h
  · cases skipInvalid with
    | true =>
      rw [ofValue_lenient registry sink hd] at h
      cases h
    | false =>
      rw [ofValue_strict registry sink hd] at h
      cases hf : faults 0 (Entry.verdicts registry entries) with
      | nil =>
        rw [hf] at h
        cases h
      | cons d ds =>
        rw [hf] at h
        obtain ⟨entry, hfirst⟩ := firstFault_of_faults hd hf
        exact ⟨rfl, d.index, entry, d.kind, hfirst, (Except.error.inj h).symm⟩

/-! ### Errors of readings -/

namespace Request

section Errors

variable {σ : Type} {q : Request} {sink : Sink σ} {s : σ}

lemma exists_parsing_of_document {e : FilterError} (h : q.document = .error e) :
    ∃ m, e = .parsing m := by
  obtain ⟨options, registry, source⟩ := q
  cases source with
  | text t => exact decode_error h
  | tree document => cases h

lemma read_of_document_error {e : FilterError} (h : q.document = .error e) :
    (q.read sink s).result = .error e := by
  rw [read_eq, h]

/-- A reading fails because the text is no document, or with the first fault of its tree. -/
lemma error_cases {e : FilterError} (h : (q.read sink s).result = .error e) :
    q.document = .error e ∨ ∃ document, q.document = .ok document ∧
      q.options.skipInvalid = false ∧ ∃ i entry kind,
        FirstFault q.registry document i entry kind ∧ e = Diagnostic.toError ⟨i, kind⟩ := by
  rw [read_eq] at h
  cases hd : q.document with
  | error e' =>
    rw [hd] at h
    exact Or.inl (congrArg Except.error (Except.error.inj h))
  | ok document =>
    rw [hd] at h
    exact Or.inr ⟨document, rfl, RuleSet.exists_firstFault h⟩

/-- An error of an entry is its first fault, which is not about a pattern. -/
lemma exists_firstFault_of_entry {d : Diagnostic} (h : (q.read sink s).result = .error (.entry d)) :
    (∀ e, d.kind ≠ .patternCompile e) ∧ ∃ document entry, q.document = .ok document ∧
      FirstFault q.registry document d.index entry d.kind := by
  rcases error_cases h with hd | ⟨document, hd, -, i, entry, kind, hfirst, he⟩
  · obtain ⟨m, hm⟩ := exists_parsing_of_document hd
    cases hm
  · rcases Diagnostic.toError_cases ⟨i, kind⟩ with ⟨e, -, hrule⟩ | ⟨hkind, hentry⟩
    · cases he.trans hrule
    · cases he.trans hentry
      exact ⟨hkind, document, entry, hd, hfirst⟩

/-- An error of a rule is the first fault, which is about a pattern. -/
lemma exists_firstFault_of_rule {e : RuleError} (h : (q.read sink s).result = .error (.rule e)) :
    ∃ document i entry, q.document = .ok document ∧
      FirstFault q.registry document i entry (.patternCompile e) := by
  rcases error_cases h with hd | ⟨document, hd, -, i, entry, kind, hfirst, he⟩
  · obtain ⟨m, hm⟩ := exists_parsing_of_document hd
    cases hm
  · rcases Diagnostic.toError_cases ⟨i, kind⟩ with ⟨e', hkind, hrule⟩ | ⟨-, hentry⟩
    · cases he.trans hrule
      obtain rfl : kind = .patternCompile e := hkind
      exact ⟨document, i, entry, hd, hfirst⟩
    · cases he.trans hentry

/-- The text is refused exactly when it is no document. -/
lemma exists_parsing_iff :
    (∃ m, (q.read sink s).result = .error (.parsing m)) ↔ ∃ e, q.document = .error e := by
  constructor
  · rintro ⟨m, h⟩
    rcases error_cases h with hd | ⟨document, -, -, i, entry, kind, -, he⟩
    · exact ⟨_, hd⟩
    · rcases Diagnostic.toError_cases ⟨i, kind⟩ with ⟨e', -, hrule⟩ | ⟨-, hentry⟩
      · cases he.trans hrule
      · cases he.trans hentry
  · rintro ⟨e, h⟩
    obtain ⟨m, rfl⟩ := exists_parsing_of_document h
    exact ⟨m, read_of_document_error h⟩

end Errors

/-- **Errors are told apart by what they carry.** Neither a report nor an error blames a pattern for
an unknown method, whatever the constructors say. An error of an entry is not about a pattern, an
error of a rule is about an expression, and an error of the text means that it is no document; a
tree never gives the last, and lenient reading of a tree gives none at all. With the builtin methods
an error of a rule is about the text of the first entry at fault, which is for an expression; and a
method that is called unknown is not among those that are listed as known. -/
theorem errors_partitioned (q : Request) :
    (∀ d ∈ q.reports, ∀ method valid, d.kind ≠ .patternCompile (.unknownMethod method valid)) ∧
    (q.registry = .builtin → ∀ d ∈ q.reports, ∀ method valid,
      d.kind = .unknownMethod method valid → method ∉ valid) ∧
    ∀ {σ : Type} (sink : Sink σ) (s : σ),
      let reading := q.read sink s
      reading.sink = q.reports.foldl sink.report s ∧
      (∀ d, reading.result = .error (.entry d) → ∀ e, d.kind ≠ .patternCompile e) ∧
      (∀ e, reading.result = .error (.rule e) →
        ∃ pattern message, e = .invalidRegex pattern message) ∧
      ((∃ m, reading.result = .error (.parsing m)) ↔ ∃ e, q.document = .error e) ∧
      (∀ document, q.source = .tree document →
        (∀ m, reading.result ≠ .error (.parsing m)) ∧
        (q.options.skipInvalid = true → ∀ e, reading.result ≠ .error e)) ∧
      (q.registry = .builtin →
        (∀ e, reading.result = .error (.rule e) →
          ∃ document i members pattern message, q.document = .ok document ∧
            FirstFault .builtin document i (.obj members) (.patternCompile e) ∧
            members.lookup ("method" : Text) = some (.str "regex") ∧
            members.lookup ("text" : Text) = some (.str pattern) ∧
            e = .invalidRegex pattern message) ∧
        ∀ d, reading.result = .error (.entry d) → ∀ method valid,
          d.kind = .unknownMethod method valid → method ∉ valid) := by
  have hreports : ∀ d ∈ q.reports, ∃ entry, Entry.Judged q.registry entry (.error d.kind) := by
    intro d hd
    obtain ⟨_, _, _, entry, _, _, hj⟩ := mem_reports.1 hd
    exact ⟨entry, hj⟩
  refine ⟨fun d hd method valid hk => ?_, fun hb d hd method valid hk => ?_, fun sink s => ?_⟩
  · obtain ⟨entry, hj⟩ := hreports d hd
    rw [hk] at hj
    obtain ⟨-, _, _, he⟩ := hj.exists_asks_of_patternCompile
    cases he
  · obtain ⟨entry, hj⟩ := hreports d hd
    rw [hk, hb] at hj
    exact hj.not_mem_of_unknownMethod
  intro reading
  refine ⟨?_, fun d h => (exists_firstFault_of_entry h).1, fun e h => ?_, exists_parsing_iff,
    fun document htree => ⟨fun m h => ?_, fun hlenient e h => ?_⟩, fun hb => ⟨fun e h => ?_,
    fun d h method valid hk => ?_⟩⟩
  · exact congrArg RuleSet.Reading.sink (read_eq_alone q sink s)
  · obtain ⟨_, _, _, -, hfirst⟩ := exists_firstFault_of_rule h
    exact hfirst.judged.exists_asks_of_patternCompile.2
  · obtain ⟨e, he⟩ := exists_parsing_iff.1 ⟨m, h⟩
    rw [Request.document, htree] at he
    cases he
  · rcases error_cases h with hd | ⟨_, -, hstrict, -⟩
    · rw [Request.document, htree] at hd
      cases hd
    · rw [hlenient] at hstrict
      cases hstrict
  · obtain ⟨document, i, entry, hd, hfirst⟩ := exists_firstFault_of_rule h
    rw [hb] at hfirst
    obtain ⟨members, pattern, message, rfl, hm, ht, he⟩ :=
      hfirst.judged.regex_of_patternCompile
    exact ⟨document, i, members, pattern, message, hd, hfirst, hm, ht, he⟩
  · obtain ⟨-, _, _, -, hfirst⟩ := exists_firstFault_of_entry h
    rw [hk, hb] at hfirst
    exact hfirst.judged.not_mem_of_unknownMethod

end Request

end TextSieve
