import TextSieve.Proofs.Consistency
import TextSieve.Proofs.Sinks

/-!
Validations give account of a filter. Every entry of the file is listed as a rule or as an entry
that was left out, and the exit code tells whether any was left out. A strict validation agrees
with a lenient one that leaves nothing out, and fails otherwise.
-/

namespace TextSieve

namespace Records

/-! ### Inventories -/

/-- The record has a type and is about what stands at an index. -/
def IsAbout (type : Text) (index : ℕ) (fields : Record) : Prop :=
  fields.lookup ("type" : Text) = some (.str type) ∧
    fields.lookup ("index" : Text) = some (.int index)

/-- The records are those of `a` rules, numbered from zero, those of `b` out of `n` entries, in the
order of the entries and each once, and a summary that tells both numbers. -/
def Inventory (n a b : ℕ) (records : List Record) : Prop :=
  ∃ (rules left : List Record) (summary : Record) (indices : List ℕ),
    records = rules ++ left ++ [summary] ∧
    List.Forall₂ (IsAbout "rule") (List.range a) rules ∧
    List.Forall₂ (IsAbout "diagnostic") indices left ∧
    indices.length = b ∧ indices.Pairwise (· < ·) ∧ (∀ i ∈ indices, i < n) ∧
    summary.lookup ("type" : Text) = some (.str "summary") ∧
    summary.lookup ("rules" : Text) = some (.int a) ∧
    summary.lookup ("skipped" : Text) = some (.int b)

lemma forall₂_isAbout_rules (rs : List Rule) :
    List.Forall₂ (IsAbout "rule") (List.range rs.length)
      (rs.zipIdx.map fun p => ruleFields p.2 p.1) := by
  have hindices : List.range rs.length = rs.zipIdx.map Prod.snd := by
    rw [List.zipIdx_map_snd, List.range_eq_range']
  rw [hindices, List.forall₂_map_left_iff, List.forall₂_map_right_iff, List.forall₂_same]
  intro p _
  exact ⟨rfl, rfl⟩

lemma forall₂_isAbout_diagnostics (ds : List Diagnostic) :
    List.Forall₂ (IsAbout "diagnostic") (ds.map (·.index)) (ds.map diagnosticFields) := by
  rw [List.forall₂_map_left_iff, List.forall₂_map_right_iff, List.forall₂_same]
  intro d _
  exact ⟨rfl, rfl⟩

/-- The listing of a set that gives account of entries is an inventory of them. -/
lemma inventory_listingRecords {registry : Registry} {entries : List Value} {set : RuleSet}
    {ds : List Diagnostic} (h : RuleSet.Accounts registry entries set.rules ds) :
    Inventory entries.length set.size ds.length (listingRecords set ds) := by
  refine ⟨_, _, _, ds.map (·.index), rfl, forall₂_isAbout_rules set.rules,
    forall₂_isAbout_diagnostics ds, List.length_map .., h.increasing, ?_, rfl, rfl, rfl⟩
  intro i hi
  obtain ⟨d, hd, rfl⟩ := List.mem_map.1 hi
  exact h.bounded d hd

end Records

namespace Command

open Verdict

/-! ### Validations of a filter document -/

section Document

variable {i : Invocation} {file : FileContent} {text : Text} {document name : Value}
  {entries : List Value}

lemma report_of_decode {options : ReadOptions} (h : decode options.format text = .ok document) :
    RuleSet.report options text =
      RuleSet.ofValue options.skipInvalid .builtin .collect document [] := by
  simp only [RuleSet.report, RuleSet.ofText, h]

/-- A lenient validation lists the rules among the verdicts and the faults. -/
lemma report_lenient (holds : Holds file text)
    (decodes : decode i.options.format text = .ok document)
    (hf : document.IsFilter name entries) (mode : i.options.skipInvalid = true)
    (stdin : ByteArray) :
    let vs := Entry.verdicts .builtin entries
    ∃ notices, i.validating.report file stdin =
      validate i.output i.color ⟨⟨RuleSet.nameOf name, kept vs⟩, faults 0 vs⟩ notices := by
  intro vs
  obtain ⟨hr, hs⟩ := RuleSet.lenient_collect .builtin hf
  have hreport : RuleSet.report i.options text =
      RuleSet.ofValue true .builtin .collect document [] := by
    rw [report_of_decode decodes, mode]
  have hset : (RuleSet.report i.options text).result =
      .ok (some ⟨RuleSet.nameOf name, kept vs⟩) := by
    rw [hreport, hr]
  have hload : load i.filter i.options file = _ := load_of_set holds hset
  rw [hreport, hs] at hload
  exact ⟨_, report_validating hload⟩

/-- A strict validation of entries without faults lists their rules. -/
lemma report_strict_of_faultless (holds : Holds file text)
    (decodes : decode i.options.format text = .ok document)
    (hf : document.IsFilter name entries) (mode : i.options.skipInvalid = false)
    (faultless : faults 0 (Entry.verdicts .builtin entries) = []) (stdin : ByteArray) :
    ∃ notices, i.validating.report file stdin = validate i.output i.color
      ⟨⟨RuleSet.nameOf name, kept (Entry.verdicts .builtin entries)⟩, []⟩ notices := by
  have hread := RuleSet.ofValue_strict .builtin Sink.collect hf []
  simp only [faultless] at hread
  have hreport := report_of_decode decodes
  rw [mode, hread] at hreport
  have hset : (RuleSet.report i.options text).result =
      .ok (some ⟨RuleSet.nameOf name, kept (Entry.verdicts .builtin entries)⟩) := by
    rw [hreport]
  have hload : load i.filter i.options file = _ := load_of_set holds hset
  rw [hreport] at hload
  exact ⟨_, report_validating hload⟩

/-- A strict validation of entries with a fault fails. -/
lemma report_strict_of_fault (holds : Holds file text)
    (decodes : decode i.options.format text = .ok document)
    (hf : document.IsFilter name entries) (mode : i.options.skipInvalid = false)
    {d : Diagnostic} {ds : List Diagnostic}
    (fault : faults 0 (Entry.verdicts .builtin entries) = d :: ds) (stdin : ByteArray) :
    ∃ notices, i.validating.report file stdin = .ofFailure (.filter d.toError) notices := by
  have hread := RuleSet.ofValue_strict .builtin Sink.collect hf []
  simp only [fault] at hread
  have hreport := report_of_decode decodes
  rw [mode, hread] at hreport
  have herror : (RuleSet.report i.options text).result = .error d.toError := by
    rw [hreport]
  have hload : load i.filter i.options file = _ := load_of_error holds herror
  exact ⟨_, report_of_failure (i := i.validating) hload stdin⟩

end Document

/-! ### Validations of any file -/

section Any

variable {i : Invocation} {file : FileContent}

/-- A strict validation never says that entries were left out. -/
lemma code_strict_ne_one (mode : i.options.skipInvalid = false) (stdin : ByteArray) :
    (i.validating.report file stdin).code ≠ 1 := by
  rcases holdsFilter_or_failure i.options file i.filter with ⟨set, text, ht, hr⟩ | ⟨f, events, hl⟩
  · have hsilent : Request.Silent ⟨i.options, .builtin, .text text⟩ := Or.inl mode
    have hs : (RuleSet.report i.options text).sink = [] := hsilent.reports_eq
    rw [report_validating (load_of_set ht hr), hs]
    exact Nat.zero_ne_one
  · have hcode := f.code_mem
    rw [report_of_failure (i := i.validating) hl]
    change f.code ≠ 1
    intro h
    rw [h] at hcode
    exact absurd hcode (by decide)

/-- A validation does not look at the standard input. -/
lemma report_validating_stdin (i : Invocation) (file : FileContent) (stdin stdin' : ByteArray) :
    i.validating.report file stdin' = i.validating.report file stdin :=
  rfl

end Any

/-- **A validation gives account of every entry.** If the text of the file is a filter document with
entries, a lenient validation lists `a` of them as rules and `b` as left out, which are all of
them; its code tells whether `b` is zero. Then a strict validation ends well and has the same
output, and otherwise it fails without output. A strict validation of any file never says that
entries were left out, and no validation looks at the standard input. -/
theorem validate_accounts (filter : Text) (format : FormatChoice) (color : ColorChoice)
    (verbose : Bool) (file : FileContent) :
    let run := fun skipInvalid output => Invocation.report
      ⟨.validate, filter, skipInvalid, format, output, color, verbose⟩ file
    (∀ (text : Text) (document name : Value) (entries : List Value), Holds file text →
      decode (format.resolve filter) text = .ok document → document.IsFilter name entries →
      ∃ a b, a + b = entries.length ∧ ∀ (output : OutputStyle) (stdin : ByteArray),
        let lenient := run true output stdin
        let strict := run false output stdin
        (b = 0 ∧ lenient.code = 0 ∨ 0 < b ∧ lenient.code = 1) ∧
        (output = .jsonl → ∃ records, (∀ rs, Records.Lists lenient.output rs ↔ rs = records) ∧
          Records.Inventory entries.length a b records) ∧
        (b = 0 ∧ strict.code = 0 ∧ strict.output = lenient.output ∨
          0 < b ∧ strict.code = 3 ∧ strict.output = [])) ∧
    (∀ (output : OutputStyle) (stdin : ByteArray), (run false output stdin).code ≠ 1) ∧
    ∀ (skipInvalid : Bool) (output : OutputStyle) (stdin stdin' : ByteArray),
      run skipInvalid output stdin' = run skipInvalid output stdin := by
  intro run
  let invocation (skipInvalid : Bool) (output : OutputStyle) : Invocation :=
    ⟨.validate, filter, skipInvalid, format, output, color, verbose⟩
  refine ⟨fun text document name entries holds decodes hf => ?_, fun output stdin => ?_,
    fun skipInvalid output stdin stdin' => ?_⟩
  · let vs := Entry.verdicts .builtin entries
    have haccounts := RuleSet.accounts_verdicts .builtin entries
    refine ⟨(kept vs).length, (faults 0 vs).length, haccounts.total, fun output stdin => ?_⟩
    intro lenient strict
    obtain ⟨notices, hlenient⟩ : ∃ notices, lenient =
        validate output color ⟨⟨RuleSet.nameOf name, kept vs⟩, faults 0 vs⟩ notices :=
      report_lenient (i := invocation true output) holds decodes hf rfl stdin
    refine ⟨?_, ?_, ?_⟩
    · rw [hlenient]
      cases hfaults : faults 0 vs with
      | nil => exact Or.inl ⟨rfl, rfl⟩
      | cons d ds => exact Or.inr ⟨Nat.succ_pos _, rfl⟩
    · rintro rfl
      let set : RuleSet := ⟨RuleSet.nameOf name, kept vs⟩
      have hlists : Records.Lists lenient.output (Records.listingRecords set (faults 0 vs)) := by
        rw [hlenient]
        exact Records.lists_listing set (faults 0 vs)
      exact ⟨_, fun _ => hlists.iff_eq, Records.inventory_listingRecords haccounts⟩
    · cases hfaults : faults 0 vs with
      | nil =>
        obtain ⟨notices', hstrict⟩ : ∃ notices, strict =
            validate output color ⟨⟨RuleSet.nameOf name, kept vs⟩, []⟩ notices :=
          report_strict_of_faultless (i := invocation false output) holds decodes hf rfl
            hfaults stdin
        rw [hstrict, hlenient, hfaults]
        exact Or.inl ⟨rfl, rfl, rfl⟩
      | cons d ds =>
        obtain ⟨notices', hstrict⟩ : ∃ notices, strict =
            .ofFailure (.filter d.toError) notices :=
          report_strict_of_fault (i := invocation false output) holds decodes hf rfl hfaults
            stdin
        rw [hstrict]
        exact Or.inr ⟨Nat.succ_pos _, rfl, rfl⟩
  · exact code_strict_ne_one (i := invocation false output) rfl stdin
  · exact report_validating_stdin (invocation skipInvalid output) file stdin stdin'

/-! ### A file with two entries at fault -/

/-- A document of entries of which two are at fault. -/
def mixedDocument : Value := .obj [("filters", .arr RuleSet.mixedEntries), ("name", .str "F")]

lemma legible_mixedDocument : Json.Legible Json.maxDepth mixedDocument := by
  have hentries : ∀ e ∈ RuleSet.mixedEntries, Json.Legible (124 + 2) e := by
    simp only [RuleSet.mixedEntries, List.forall_mem_cons]
    refine ⟨.obj (by decide) ?_, .null, .obj (by decide) ?_, .obj (by decide) ?_,
      List.forall_mem_nil _⟩
    · simp only [List.forall_mem_cons]
      exact ⟨.str, .str, List.forall_mem_nil _⟩
    · simp only [List.forall_mem_cons]
      exact ⟨.str, List.forall_mem_nil _⟩
    · simp only [List.forall_mem_cons]
      exact ⟨.bool, .str, .str, List.forall_mem_nil _⟩
  refine .obj (d := 126) (by decide) ?_
  simp only [List.forall_mem_cons]
  exact ⟨.arr (d := 125) hentries, .str, List.forall_mem_nil _⟩

/-- The file of the document: a lenient validation says that entries were left out, and a strict
one fails. -/
theorem validate_accounts_mixedDocument :
    let text := Json.write mixedDocument
    let file : FileContent := .ok (String.ofList text).toByteArray
    let run := fun skipInvalid => Invocation.report
      ⟨.validate, "f", skipInvalid, .json, .jsonl, .never, false⟩ file .empty
    Holds file text ∧ decode .json text = .ok mixedDocument ∧
      mixedDocument.IsFilter (.str "F") RuleSet.mixedEntries ∧
      (run true).code = 1 ∧ (run false).code = 3 ∧ (run false).output = [] ∧
      ∃ a b records, a + b = 4 ∧ Records.Lists (run true).output records ∧
        Records.Inventory 4 a b records := by
  intro text file run
  have holds : Holds file text := holds_toByteArray text
  have decodes : decode .json text = .ok mixedDocument := by
    unfold decode
    rw [Json.read_write legible_mixedDocument]
    rfl
  have hf : mixedDocument.IsFilter (.str "F") RuleSet.mixedEntries := ⟨_, rfl, rfl, rfl⟩
  obtain ⟨a, b, htotal, h⟩ := (validate_accounts "f" .json .never false file).1 text
    mixedDocument (.str "F") RuleSet.mixedEntries holds decodes hf
  obtain ⟨hcode, hlisting, hstrict⟩ := h .jsonl .empty
  have hone : (run true).code = 1 := by
    let i : Invocation := ⟨.validate, "f", true, .json, .jsonl, .never, false⟩
    let vs := Entry.verdicts .builtin RuleSet.mixedEntries
    obtain ⟨notices, hreport⟩ : ∃ notices, run true =
        validate .jsonl .never ⟨⟨RuleSet.nameOf (.str "F"), kept vs⟩, faults 0 vs⟩ notices :=
      report_lenient (i := i) holds decodes hf rfl .empty
    rw [hreport]
    rfl
  have hb : 0 < b := by
    rcases hcode with ⟨-, hzero⟩ | ⟨hb, -⟩
    · exact absurd (hone.symm.trans hzero) (by decide)
    · exact hb
  obtain ⟨-, hthree, hempty⟩ := hstrict.resolve_left fun hzero => Nat.ne_of_gt hb hzero.1
  obtain ⟨records, hlists, hinventory⟩ := hlisting rfl
  exact ⟨holds, decodes, hf, hone, hthree, hempty, a, b, records, htotal,
    (hlists records).2 rfl, hinventory⟩

end Command

end TextSieve
