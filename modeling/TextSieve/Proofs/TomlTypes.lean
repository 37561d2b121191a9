import TextSieve.Proofs.Recovery
import TextSieve.Proofs.Grammar
import TextSieve.Proofs.TomlTables

/-!
What is left of the types of TOML in filter documents. An entry is judged by its document tree,
where every type of TOML can still be told from truth values, but a number that is not finite can
not be told from null. So the flag of an entry is refused when it is no truth value, unless it is
such a number: then it is taken for a flag that was not given.
-/

namespace TextSieve

open Verdict

namespace Toml

/-! ### Trees of values -/

lemma treesOf_eq_map (ds : List Datum) : treesOf ds = ds.map Datum.toValue := by
  induction ds with
  | nil => rfl
  | cons d ds ih => rw [treesOf, ih, List.map_cons]

lemma lookup_memberTreesOf (ms : List (Text × Datum)) (key : Text) :
    (memberTreesOf ms).lookup key = (ms.lookup key).map Datum.toValue := by
  induction ms with
  | nil => rfl
  | cons m ms ih =>
    obtain ⟨k, d⟩ := m
    rw [memberTreesOf, List.lookup_cons, List.lookup_cons, ih]
    cases key == k <;> rfl

/-- Only a number that is not finite becomes null. -/
lemma Datum.toValue_eq_null_iff {d : Datum} : d.toValue = .null ↔ d = .float none := by
  constructor
  · intro h
    cases d with
    | float x =>
      cases x with
      | none => rfl
      | some x => cases h
    | _ => cases h
  · rintro rfl
    rfl

/-- Only a truth value becomes a truth value. -/
lemma Datum.toValue_eq_bool_iff {d : Datum} {b : Bool} : d.toValue = .bool b ↔ d = .truth b := by
  constructor
  · intro h
    cases d with
    | truth c =>
      cases h
      rfl
    | float x => cases x <;> cases h
    | _ => cases h
  · rintro rfl
    rfl

/-! ### Entries of a text -/

/-- The text is a filter document, and the entry at a position is the table with the members. -/
def HasEntry (document : Text) (i : ℕ) (members : List (Text × Datum)) : Prop :=
  ∃ root name entries, readTable document = .ok root ∧ root.lookup ("name" : Text) = some name ∧
    root.lookup ("filters" : Text) = some (.array entries) ∧ entries[i]? = some (.table members)

/-- The table names a text and a registered method, and has a flag of some type. -/
structure Flagged (registry : Registry) (members : List (Text × Datum)) (method text : Text)
    (flag : Datum) : Prop where
  hasText : members.lookup ("text" : Text) = some (.text text)
  hasMethod : members.lookup ("method" : Text) = some (.text method)
  known : method ∈ registry.methods
  hasFlag : members.lookup ("case_sensitive" : Text) = some flag

lemma HasEntry.exists_isFilter {text : Text} {i : ℕ} {members : List (Text × Datum)}
    (h : HasEntry text i members) :
    ∃ document name entries, decode .toml text = .ok document ∧ document.IsFilter name entries ∧
      entries[i]? = some (.obj (memberTreesOf members)) := by
  obtain ⟨root, name, entries, hroot, hname, hfilters, hentry⟩ := h
  refine ⟨.obj (memberTreesOf root), name.toValue, treesOf entries, ?_, ⟨_, rfl, ?_, ?_⟩, ?_⟩
  · unfold decode read
    rw [hroot]
    rfl
  · rw [lookup_memberTreesOf, hname]
    rfl
  · rw [lookup_memberTreesOf, hfilters]
    rfl
  · rw [treesOf_eq_map, List.getElem?_map, hentry]
    rfl

section Flags

variable {registry : Registry} {members : List (Text × Datum)} {method text : Text} {flag : Datum}

/-- A flag that is neither a truth value nor a number that is not finite is a fault. -/
lemma Flagged.read_of_finite (h : Flagged registry members method text flag)
    (htruth : ∀ b, flag ≠ .truth b) (hfinite : flag ≠ .float none) :
    Entry.read registry (.obj (memberTreesOf members)) =
      .error (.invalidField "case_sensitive" "a boolean") := by
  have htext : (memberTreesOf members).lookup ("text" : Text) = some (.str text) := by
    rw [lookup_memberTreesOf, h.hasText]
    rfl
  have hmethod : (memberTreesOf members).lookup ("method" : Text) = some (.str method) := by
    rw [lookup_memberTreesOf, h.hasMethod]
    rfl
  have hflag : (memberTreesOf members).lookup ("case_sensitive" : Text) = some flag.toValue := by
    rw [lookup_memberTreesOf, h.hasFlag]
    rfl
  have hnull : flag.toValue ≠ .null := fun hv => hfinite (Datum.toValue_eq_null_iff.1 hv)
  have hbool : ∀ b, flag.toValue ≠ .bool b := fun b hv =>
    htruth b (Datum.toValue_eq_bool_iff.1 hv)
  exact (Entry.Judged.caseType htext hmethod h.known hflag hnull hbool).read_eq

/-- A number that is not finite is no fault: the rule is made as if case did not count. -/
lemma Flagged.read_of_not_finite (h : Flagged registry members method text (.float none)) :
    Entry.read registry (.obj (memberTreesOf members)) =
      (registry.build method text false).mapError .ofRuleError := by
  obtain ⟨c, hc⟩ := Registry.mem_methods.1 h.known
  have htext : (memberTreesOf members).lookup ("text" : Text) = some (.str text) := by
    rw [lookup_memberTreesOf, h.hasText]
    rfl
  have hmethod : (memberTreesOf members).lookup ("method" : Text) = some (.str method) := by
    rw [lookup_memberTreesOf, h.hasMethod]
    rfl
  have hflag : Entry.CaseFlag (memberTreesOf members) false := by
    refine Or.inl ⟨Or.inr ?_, rfl⟩
    rw [lookup_memberTreesOf, h.hasFlag]
    rfl
  rw [(Entry.Judged.built htext hmethod hc hflag).read_eq, Registry.build_of_find? hc]

end Flags

end Toml

/-! ### Readings of a text -/

namespace RuleSet

lemma ofText_of_decode {σ : Type} {format : Format} {text : Text} {document : Value}
    (h : decode format text = .ok document) (skipInvalid : Bool) (registry : Registry)
    (sink : Sink σ) (s : σ) :
    ofText ⟨skipInvalid, format⟩ registry sink text s =
      ofValue skipInvalid registry sink document s := by
  unfold ofText
  rw [h]

/-- What lenient reading reports of an entry is what is wrong with it. -/
lemma mem_lenient_reports_iff {registry : Registry} {document name : Value}
    {entries : List Value} {entry : Value} {i : ℕ} (h : document.IsFilter name entries)
    (he : entries[i]? = some entry) (k : DiagnosticKind) :
    ⟨i, k⟩ ∈ (ofValue true registry .collect document []).sink ↔
      Entry.read registry entry = .error k := by
  rw [(lenient_collect registry h).2, mem_faults, Entry.verdicts, List.getElem?_map, Nat.sub_zero,
    he, Option.map_some, Option.some.injEq]
  exact and_iff_right (Nat.zero_le i)

/-- Strict reading ends at an entry that is at fault, or at an earlier one. -/
lemma strict_result_of_fault {σ : Type} {registry : Registry} {document name : Value}
    {entries : List Value} {entry : Value} {i : ℕ} {k : DiagnosticKind}
    (h : document.IsFilter name entries) (he : entries[i]? = some entry)
    (hk : Entry.read registry entry = .error k) (sink : Sink σ) (s : σ) :
    ∃ d : Diagnostic, (ofValue false registry sink document s).result = .error d.toError ∧
      d.index ≤ i ∧ (d.index = i → d.kind = k) := by
  have hmem : (⟨i, k⟩ : Diagnostic) ∈ faults 0 (Entry.verdicts registry entries) := by
    rw [mem_faults, Entry.verdicts, List.getElem?_map, Nat.sub_zero, he, Option.map_some, hk]
    exact ⟨Nat.zero_le i, rfl⟩
  have hsorted := faults_pairwise 0 (Entry.verdicts registry entries)
  have hstrict := ofValue_strict registry sink h s
  cases hf : faults 0 (Entry.verdicts registry entries) with
  | nil =>
    rw [hf] at hmem
    cases hmem
  | cons d ds =>
    simp only [hf] at hstrict
    rw [hf] at hmem hsorted
    refine ⟨d, congrArg Reading.result hstrict, ?_⟩
    rcases List.mem_cons.1 hmem with rfl | hlater
    · exact ⟨Nat.le_refl i, fun _ => rfl⟩
    · have hlt : d.index < i := (List.pairwise_cons.1 hsorted).1 _ hlater
      exact ⟨Nat.le_of_lt hlt, fun heq => absurd heq (Nat.ne_of_lt hlt)⟩

end RuleSet

namespace Toml

open RuleSet

/-- **Flags of the wrong type.** Let an entry of a TOML text name a text and a registered method,
and have a flag that is no truth value. If the flag is no number, or a finite one, then strict
reading fails at the entry or before it, and lenient reading reports the flag and leaves the entry
out. If it is a number that is not finite, the entry is read as if case did not count in it. -/
theorem flag_refused_iff_finite {σ : Type} {registry : Registry} {document : Text} {i : ℕ}
    {members : List (Text × Datum)} {method text : Text} {flag : Datum} (sink : Sink σ) (s : σ)
    (hentry : HasEntry document i members) (hflag : Flagged registry members method text flag)
    (htruth : ∀ b, flag ≠ .truth b) :
    let strict := ofText ⟨false, .toml⟩ registry sink document s
    let lenient := ofText ⟨true, .toml⟩ registry .collect document []
    (flag ≠ .float none →
      (∃ d : Diagnostic, strict.result = .error d.toError ∧ d.index ≤ i ∧
        (d.index = i → d.kind = .invalidField "case_sensitive" "a boolean")) ∧
      ∀ k, ⟨i, k⟩ ∈ lenient.sink ↔ k = .invalidField "case_sensitive" "a boolean") ∧
    (flag = .float none →
      ∀ k, ⟨i, k⟩ ∈ lenient.sink ↔
        (registry.build method text false).mapError DiagnosticKind.ofRuleError = .error k) := by
  obtain ⟨tree, name, entries, hdecode, hfilter, he⟩ := hentry.exists_isFilter
  intro strict lenient
  have hstrict : strict = ofValue false registry sink tree s :=
    ofText_of_decode hdecode false registry sink s
  have hlenient : lenient = ofValue true registry .collect tree [] :=
    ofText_of_decode hdecode true registry .collect []
  constructor
  · intro hfinite
    have hread := hflag.read_of_finite htruth hfinite
    refine ⟨?_, fun k => ?_⟩
    · rw [hstrict]
      exact strict_result_of_fault hfilter he hread sink s
    · rw [hlenient, mem_lenient_reports_iff hfilter he k, hread, Except.error.injEq, eq_comm]
  · rintro rfl k
    rw [hlenient, mem_lenient_reports_iff hfilter he k, hflag.read_of_not_finite]

/-! ### Documents with a flag -/

/-- A document with one entry, which has a flag that is written in some way. -/
def flagDocument (flag : Text) : Text :=
  textLine "name" "F" ++ (elementLine "filters" ++ (textLine "text" "a" ++
    (textLine "method" "contains" ++ (pairLine "case_sensitive" flag ++ []))))

/-- The members of its entry. -/
def flagMembers (flag : Datum) : List (Text × Datum) :=
  [("case_sensitive", flag), ("method", .text "contains"), ("text", .text "a")]

lemma readTable_flagDocument {w : Text} {flag : Datum} (h : Reads w flag) :
    readTable (flagDocument w) =
      .ok [("filters", .array [.table (flagMembers flag)]), ("name", .text "F")] := by
  have hname : Leads ⟨[], []⟩ (textLine "name" "F") ⟨[("name", .value (.text "F"))], []⟩ :=
    leads_pairLine (by decide) (reads_spelled "F") rfl
  have hheader : Leads ⟨[("name", .value (.text "F"))], []⟩ (elementLine "filters")
      (draftOf "F" ([] ++ [[]])) := leads_elementLine (by decide) rfl
  have hlines : Text.Parts ReadsLine
      [("text", .text "a"), ("method", .text "contains"), ("case_sensitive", flag)] _ :=
    .cons (readsLine_textLine _ _) (.cons (readsLine_textLine _ _) (.cons ⟨w, h, rfl⟩ .nil))
  have hbare : ∀ k ∈ (["text".toList, "method".toList, "case_sensitive".toList] : List Text),
      IsBare k := by decide
  have hnodup : (["text".toList, "method".toList, "case_sensitive".toList] : List Text).Nodup := by
    decide
  have hpairs := leads_pairLines "F" [] hlines hbare hnodup fun _ _ => List.lookup_nil
  exact readTable_of_leads (hname.trans (hheader.trans hpairs)) rfl

lemma hasEntry_flagDocument {w : Text} {flag : Datum} (h : Reads w flag) :
    HasEntry (flagDocument w) 0 (flagMembers flag) :=
  ⟨_, _, _, readTable_flagDocument h, rfl, rfl, rfl⟩

lemma flagged_flagMembers (flag : Datum) :
    Flagged .builtin (flagMembers flag) "contains" "a" flag :=
  ⟨rfl, rfl, by decide, rfl⟩

/-- A flag that is a date is reported. -/
theorem flag_refused_date :
    let document := flagDocument "1979-05-27"
    let flag : Datum := .moment (.date ⟨1979, 5, 27⟩)
    HasEntry document 0 (flagMembers flag) ∧
      Flagged .builtin (flagMembers flag) "contains" "a" flag ∧ (∀ b, flag ≠ .truth b) ∧
      ∀ k, ⟨0, k⟩ ∈ (ofText ⟨true, .toml⟩ .builtin .collect document []).sink ↔
        k = .invalidField "case_sensitive" "a boolean" := by
  intro document flag
  have hreads : Reads "1979-05-27" flag :=
    .of_length (Nat.zero_lt_succ _) (fun _ => rfl) fun _ _ => rfl
  have hentry : HasEntry document 0 (flagMembers flag) := hasEntry_flagDocument hreads
  have hflag := flagged_flagMembers flag
  have h := flag_refused_iff_finite .discard () hentry hflag nofun
  exact ⟨hentry, hflag, nofun, (h.1 nofun).2⟩

/-- The document with a flag that is not a number. -/
def nanDocument : Text := "name = \"F\"\n[[filters]]\ntext = \"a\"\nmethod = \"contains\"\n" ++
  "case_sensitive = nan\n".toList

/-- A flag that is not a number is accepted, in both modes. -/
theorem flag_nan_accepted :
    HasEntry nanDocument 0 (flagMembers (.float none)) ∧
      Flagged .builtin (flagMembers (.float none)) "contains" "a" (.float none) ∧
      (∀ b, Datum.float none ≠ .truth b) ∧
      (ofText ⟨false, .toml⟩ .builtin .discard nanDocument ()).result =
        .ok (some ⟨"F", [.contains "a" false]⟩) ∧
      (ofText ⟨true, .toml⟩ .builtin .collect nanDocument []).result =
        .ok (some ⟨"F", [.contains "a" false]⟩) ∧
      (ofText ⟨true, .toml⟩ .builtin .collect nanDocument []).sink = [] := by
  have hdocument : nanDocument = flagDocument "nan" := rfl
  have hreads : Reads "nan" (.float none) :=
    .of_length (Nat.zero_lt_succ _) (fun _ => rfl) fun _ _ => rfl
  have hentry := hasEntry_flagDocument hreads
  have hdecode : decode .toml (flagDocument "nan") = .ok (.obj (memberTreesOf
      [("filters", .array [.table (flagMembers (.float none))]), ("name", .text "F")])) := by
    unfold decode read
    rw [readTable_flagDocument hreads]
    rfl
  rw [← hdocument] at hentry hdecode
  refine ⟨hentry, flagged_flagMembers _, nofun, ?_⟩
  -- What is read depends on the tree of the text only.
  generalize nanDocument = text at hdecode
  refine ⟨?_, ?_, ?_⟩
  · rw [ofText_of_decode hdecode]
    rfl
  · rw [ofText_of_decode hdecode]
    rfl
  · rw [ofText_of_decode hdecode]
    rfl

end Toml

end TextSieve
