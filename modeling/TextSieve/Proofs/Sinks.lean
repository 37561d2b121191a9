import TextSieve.Proofs.Grammar

/-!
What readings owe to their sinks. The result of a reading does not depend on the sink, and every
sink takes up the same diagnostics, one behind the other, in the order of their entries. So
readings that share a sink leave in it what each of them would report alone.
-/

namespace TextSieve

open RuleSet Verdict

/-! ### Requests -/

/-- What a rule set is read from: a text, or a tree that has been decoded before. -/
inductive Source where
  | text (t : Text)
  | tree (document : Value)

/-- What is asked of a reading, apart from its sink. -/
structure Request where
  options : ReadOptions
  registry : Registry
  source : Source

namespace Request

variable {σ : Type}

/-- Reads the rule set that is asked for. -/
def read (q : Request) (sink : Sink σ) (s : σ) : Reading σ :=
  match q.source with
  | .text t => ofText q.options q.registry sink t s
  | .tree document => ofValue q.options.skipInvalid q.registry sink document s

/-- The tree that the rule set is read from. -/
def document (q : Request) : Except FilterError Value :=
  match q.source with
  | .text t => decode q.options.format t
  | .tree document => .ok document

/-- Reads one rule set after the other into the same sink. -/
def readAll (sink : Sink σ) : List Request → σ → List (Except FilterError (Option RuleSet)) × σ
  | [], s => ([], s)
  | q :: qs, s =>
    let reading := q.read sink s
    let rest := readAll sink qs reading.sink
    (reading.result :: rest.1, rest.2)

/-- The diagnostics of a request that stands alone. -/
def reports (q : Request) : List Diagnostic := (q.read .collect []).sink

/-- There is nothing to report: reading is strict, or the text is no document, or the document is
no filter. -/
def Silent (q : Request) : Prop :=
  q.options.skipInvalid = false ∨ (∃ e, q.document = .error e) ∨
    ∃ document, q.document = .ok document ∧ document.LacksFilters

/-- The entries are read leniently. -/
def Lenient (q : Request) (document name : Value) (entries : List Value) : Prop :=
  q.options.skipInvalid = true ∧ q.document = .ok document ∧ document.IsFilter name entries

lemma silent_or_lenient (q : Request) :
    q.Silent ∨ ∃ document name entries, q.Lenient document name entries := by
  cases hs : q.options.skipInvalid with
  | false => exact Or.inl (Or.inl hs)
  | true =>
    cases hd : q.document with
    | error e => exact Or.inl (Or.inr (Or.inl ⟨e, hd⟩))
    | ok document =>
      rcases document.lacksFilters_or_isFilter with h | ⟨name, entries, h⟩
      · exact Or.inl (Or.inr (Or.inr ⟨document, hd, h⟩))
      · exact Or.inr ⟨document, name, entries, hs, hd, h⟩

/-- A text is decoded, and then its tree is read. -/
lemma read_eq (q : Request) (sink : Sink σ) (s : σ) :
    q.read sink s =
      match q.document with
      | .error e => ⟨.error e, s, []⟩
      | .ok document => ofValue q.options.skipInvalid q.registry sink document s := by
  obtain ⟨options, registry, source⟩ := q
  cases source with
  | text t => rfl
  | tree document => rfl

/-! ### One reading -/

/-- A silent request leaves its sink alone, and has the same result with all sinks. -/
lemma Silent.read_eq {q : Request} (h : q.Silent) (sink : Sink σ) (s : σ) :
    q.read sink s = ⟨(q.read .collect []).result, s, (q.read .collect []).events⟩ := by
  rw [Request.read_eq, Request.read_eq]
  cases hd : q.document with
  | error e => rfl
  | ok document =>
    rcases document.lacksFilters_or_isFilter with hl | ⟨name, entries, hf⟩
    · obtain ⟨event, he⟩ := ofValue_of_lacksFilters hl
      simp only [he]
    · have hs : q.options.skipInvalid = false := by
        rcases h with h | ⟨e, he⟩ | ⟨document', hd', hl⟩
        · exact h
        · rw [hd] at he
          cases he
        · rw [hd] at hd'
          cases hd'
          exact absurd hl (Value.not_lacksFilters_of_isFilter hf)
      simp only [hs, ofValue_strict q.registry _ hf]
      cases faults 0 (Entry.verdicts q.registry entries) <;> rfl

lemma Lenient.read_eq {q : Request} {document name : Value} {entries : List Value}
    (h : q.Lenient document name entries) (sink : Sink σ) (s : σ) :
    let vs := Entry.verdicts q.registry entries
    q.read sink s =
      ⟨.ok (some ⟨nameOf name, kept vs⟩), (faults 0 vs).foldl sink.report s,
        trail 0 vs ++ [.parsed (nameOf name) (kept vs).length (faults 0 vs).length]⟩ := by
  obtain ⟨hs, hd, hf⟩ := h
  rw [Request.read_eq, hd, hs]
  exact ofValue_lenient q.registry sink hf s

lemma Silent.reports_eq {q : Request} (h : q.Silent) : q.reports = [] := by
  rw [reports, h.read_eq]

lemma Lenient.reports_eq {q : Request} {document name : Value} {entries : List Value}
    (h : q.Lenient document name entries) :
    q.reports = faults 0 (Entry.verdicts q.registry entries) := by
  rw [reports, h.read_eq, Sink.foldl_collect, List.nil_append]

/-- **Every sink takes up the same reports**, and has no part in the result. -/
theorem read_eq_alone (q : Request) (sink : Sink σ) (s : σ) :
    q.read sink s = ⟨(q.read .collect []).result, q.reports.foldl sink.report s,
      (q.read .collect []).events⟩ := by
  rcases q.silent_or_lenient with h | ⟨document, name, entries, h⟩
  · rw [h.reports_eq]
    exact h.read_eq sink s
  · rw [h.reports_eq, h.read_eq, h.read_eq]

lemma reports_pairwise (q : Request) : q.reports.Pairwise fun d e => d.index < e.index := by
  rcases q.silent_or_lenient with h | ⟨document, name, entries, h⟩
  · rw [h.reports_eq]
    exact List.Pairwise.nil
  · rw [h.reports_eq]
    exact faults_pairwise 0 _

/-- What is reported are the entries at fault of a document that is read leniently. -/
lemma mem_reports {q : Request} {d : Diagnostic} :
    d ∈ q.reports ↔ ∃ document name entries entry, q.Lenient document name entries ∧
      entries[d.index]? = some entry ∧ Entry.Judged q.registry entry (.error d.kind) := by
  constructor
  · intro hd
    rcases q.silent_or_lenient with h | ⟨document, name, entries, h⟩
    · rw [h.reports_eq] at hd
      cases hd
    · rw [h.reports_eq] at hd
      obtain ⟨-, hv⟩ := mem_faults.1 hd
      rw [Entry.verdicts, List.getElem?_map, Nat.sub_zero, Option.map_eq_some_iff] at hv
      obtain ⟨entry, he, hk⟩ := hv
      exact ⟨document, name, entries, entry, h, he, Entry.judged_iff.2 hk⟩
  · rintro ⟨document, name, entries, entry, h, he, hj⟩
    rw [h.reports_eq, mem_faults]
    refine ⟨Nat.zero_le _, ?_⟩
    rw [Entry.verdicts, List.getElem?_map, Nat.sub_zero, he, Option.map_some, hj.read_eq]

/-! ### Many readings -/

/-- **Readings that share a sink**: each has the result that it would have alone, and the sink
takes up their reports one behind the other. By induction on the requests; a step is
`read_eq_alone` from the state that the readings before have left. -/
theorem readAll_eq (sink : Sink σ) (qs : List Request) (s : σ) :
    readAll sink qs s = (qs.map fun q => (q.read .collect []).result,
      (qs.flatMap reports).foldl sink.report s) := by
  induction qs generalizing s with
  | nil => rfl
  | cons q qs ih =>
    rw [readAll, read_eq_alone q sink s]
    simp only [ih, List.map_cons, List.flatMap_cons, List.foldl_append]

end Request

open Request in
/-- **Readings are faithful to their sinks.** The result is the same whatever the sink; the sink
takes up, in the order of their entries, each once, the diagnostics of the entries at fault; and
it is left alone in strict reading, by texts that are no documents, and by documents that are no
filters. So a callback is handed what a list collects, all ways of reading a text agree, and
readings that share a list put behind its content what each would report alone. -/
theorem read_faithful_to_sink :
    (∀ q : Request,
      (∀ {σ : Type} (sink : Sink σ) (s : σ),
        (q.read sink s).result = (q.read .collect []).result ∧
          (q.read sink s).sink = q.reports.foldl sink.report s ∧
          (q.Silent → (q.read sink s).sink = s)) ∧
      (q.reports.Pairwise fun d e => d.index < e.index) ∧
      (∀ d, d ∈ q.reports ↔ ∃ document name entries entry, q.Lenient document name entries ∧
        entries[d.index]? = some entry ∧ Entry.Judged q.registry entry (.error d.kind)) ∧
      (q.read (.callback fun d seen => seen ++ [d]) []).sink = q.reports ∧
      ∀ {σ : Type} (f : Diagnostic → σ → σ) (s : σ),
        (q.read (.callback f) s).sink = q.reports.foldl (fun s d => f d s) s) ∧
    (∀ {σ : Type} (options : ReadOptions) (text : Text) (sink : Sink σ) (s : σ),
      (RuleSet.report options text).result =
          (ofText options .builtin sink text s).result ∧
        (ofText options .builtin sink text s).sink =
          (RuleSet.report options text).sink.foldl sink.report s) ∧
    (∀ {σ : Type} (skipInvalid : Bool) (text : Text) (sink : Sink σ) (s : σ),
      RuleSet.parse text skipInvalid =
        (ofText (.ofMode skipInvalid) .builtin sink text s).result) ∧
    ∀ (qs : List Request) (log : List Diagnostic),
      (readAll .collect qs log).1 = qs.map (fun q => (q.read .collect []).result) ∧
        (readAll .collect qs log).2 = log ++ qs.flatMap reports := by
  refine ⟨fun q => ⟨fun sink s => ?_, q.reports_pairwise, fun d => mem_reports, ?_,
    fun f s => ?_⟩, fun options text sink s => ?_, fun skipInvalid text sink s => ?_,
    fun qs log => ?_⟩
  · rw [read_eq_alone q sink s]
    refine ⟨rfl, rfl, fun h => ?_⟩
    simp only [h.reports_eq, List.foldl_nil]
  · rw [read_eq_alone q (.callback _)]
    exact (Sink.foldl_collect [] q.reports).trans (List.nil_append _)
  · rw [read_eq_alone q (.callback f)]
    rfl
  · have h := read_eq_alone ⟨options, .builtin, .text text⟩ sink s
    exact ⟨(congrArg Reading.result h).symm, congrArg Reading.sink h⟩
  · let q : Request := ⟨.ofMode skipInvalid, .builtin, .text text⟩
    have hd := congrArg Reading.result (read_eq_alone q .discard ())
    have hs := congrArg Reading.result (read_eq_alone q sink s)
    exact hd.trans hs.symm
  · rw [readAll_eq, Sink.foldl_collect]
    exact ⟨rfl, rfl⟩

end TextSieve
