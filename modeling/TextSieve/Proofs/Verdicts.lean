import Mathlib.Data.List.Basic
import Mathlib.Tactic.Lemma
import TextSieve.Filter.Document

/-!
Reading a document in terms of the verdicts on its entries. A verdict is the rule that an entry
stands for or what is wrong with it; it depends on the entry and the registry only. The reader of
a list of entries does nothing but pass over the verdicts, in both modes: `readEntries_lenient`,
`readEntries_strict`, and for whole documents `ofValue_lenient`, `ofValue_strict`.
-/

namespace TextSieve

/-- The rule that an entry stands for, or what is wrong with it. -/
abbrev Verdict := Except DiagnosticKind Rule

namespace Verdict

/-- The rules among verdicts, in order. -/
def kept : List Verdict → List Rule
  | [] => []
  | .ok r :: vs => r :: kept vs
  | .error _ :: vs => kept vs

/-- The diagnostics among verdicts, the first of which is on the entry with the given index. -/
def faults : ℕ → List Verdict → List Diagnostic
  | _, [] => []
  | i, .ok _ :: vs => faults (i + 1) vs
  | i, .error k :: vs => ⟨i, k⟩ :: faults (i + 1) vs

/-- The events of reading entries with the verdicts, the first of which has the given index. -/
def trail : ℕ → List Verdict → List Event
  | _, [] => []
  | i, .ok r :: vs => .accepted i r.method r.pattern :: trail (i + 1) vs
  | i, .error k :: vs => .skipped ⟨i, k⟩ :: trail (i + 1) vs

/-! ### The rules and the diagnostics of verdicts -/

lemma kept_append (vs ws : List Verdict) : kept (vs ++ ws) = kept vs ++ kept ws := by
  induction vs with
  | nil => rfl
  | cons v vs ih => cases v <;> simp [kept, ih]

lemma mem_kept {vs : List Verdict} {r : Rule} : r ∈ kept vs ↔ .ok r ∈ vs := by
  induction vs with
  | nil => simp [kept]
  | cons v vs ih => cases v <;> simp [kept, ih]

lemma kept_map_ok (rs : List Rule) : kept (rs.map Except.ok) = rs := by
  induction rs with
  | nil => rfl
  | cons r rs ih => rw [List.map_cons, kept, ih]

lemma faults_map_ok (i : ℕ) (rs : List Rule) : faults i (rs.map Except.ok) = [] := by
  induction rs generalizing i with
  | nil => rfl
  | cons r rs ih => rw [List.map_cons, faults, ih]

/-- Every verdict counts on one side. -/
lemma length_kept_add_length_faults (i : ℕ) (vs : List Verdict) :
    (kept vs).length + (faults i vs).length = vs.length := by
  induction vs generalizing i with
  | nil => rfl
  | cons v vs ih =>
    have := ih (i + 1)
    cases v <;> simp only [kept, faults, List.length_cons] <;> omega

/-- A diagnostic belongs to the verdict at its index. -/
lemma mem_faults {i : ℕ} {vs : List Verdict} {d : Diagnostic} :
    d ∈ faults i vs ↔ i ≤ d.index ∧ vs[d.index - i]? = some (.error d.kind) := by
  induction vs generalizing i with
  | nil => simp [faults]
  | cons v vs ih =>
    -- behind the first verdict all indices have grown by one
    have key : (i + 1 ≤ d.index ∧ vs[d.index - (i + 1)]? = some (.error d.kind)) ↔
        i < d.index ∧ (v :: vs)[d.index - i]? = some (.error d.kind) := by
      constructor
      · rintro ⟨h, hv⟩
        refine ⟨h, ?_⟩
        rwa [show d.index - i = d.index - (i + 1) + 1 by omega, List.getElem?_cons_succ]
      · rintro ⟨h, hv⟩
        refine ⟨h, ?_⟩
        rwa [show d.index - i = d.index - (i + 1) + 1 by omega, List.getElem?_cons_succ] at hv
    cases v with
    | ok r =>
      rw [faults, ih, key]
      constructor
      · rintro ⟨h, hv⟩
        exact ⟨by omega, hv⟩
      · rintro ⟨h, hv⟩
        refine ⟨?_, hv⟩
        rcases Nat.eq_or_lt_of_le h with rfl | h
        · simp at hv
        · exact h
    | error k =>
      rw [faults, List.mem_cons, ih, key]
      constructor
      · rintro (rfl | ⟨h, hv⟩)
        · simp
        · exact ⟨by omega, hv⟩
      · rintro ⟨h, hv⟩
        rcases Nat.eq_or_lt_of_le h with rfl | h
        · have hk : k = d.kind := by simpa using hv
          exact Or.inl (by rw [hk])
        · exact Or.inr ⟨h, hv⟩

lemma le_index_of_mem_faults {i : ℕ} {vs : List Verdict} {d : Diagnostic}
    (h : d ∈ faults i vs) : i ≤ d.index :=
  (mem_faults.1 h).1

lemma index_lt_of_mem_faults {i : ℕ} {vs : List Verdict} {d : Diagnostic}
    (h : d ∈ faults i vs) : d.index < i + vs.length := by
  obtain ⟨hi, hv⟩ := mem_faults.1 h
  have := (List.getElem?_eq_some_iff.1 hv).1
  omega

/-- The indices of diagnostics increase. -/
lemma faults_pairwise (i : ℕ) (vs : List Verdict) :
    (faults i vs).Pairwise fun d e => d.index < e.index := by
  induction vs generalizing i with
  | nil => exact List.Pairwise.nil
  | cons v vs ih =>
    cases v with
    | ok r => exact ih (i + 1)
    | error k =>
      refine List.pairwise_cons.2 ⟨fun e he => ?_, ih (i + 1)⟩
      have := le_index_of_mem_faults he
      exact this

end Verdict

/-- The same diagnostic for an entry that stands further behind. -/
def Diagnostic.shift (n : ℕ) (d : Diagnostic) : Diagnostic := { d with index := d.index + n }

namespace Verdict

lemma faults_add (i n : ℕ) (vs : List Verdict) :
    faults (i + n) vs = (faults i vs).map (Diagnostic.shift n) := by
  induction vs generalizing i with
  | nil => rfl
  | cons v vs ih =>
    have ih := ih (i + 1)
    rw [show i + 1 + n = i + n + 1 by omega] at ih
    cases v <;> simp [faults, ih, Diagnostic.shift]

lemma faults_append (i : ℕ) (vs ws : List Verdict) :
    faults i (vs ++ ws) = faults i vs ++ faults (i + vs.length) ws := by
  induction vs generalizing i with
  | nil => rfl
  | cons v vs ih =>
    have ih := ih (i + 1)
    rw [show i + 1 + vs.length = i + (v :: vs).length by simp; omega] at ih
    cases v <;> simp [faults, ih]

end Verdict

/-! ### Entries -/

/-- The verdicts on the entries of a document. -/
def Entry.verdicts (registry : Registry) (entries : List Value) : List Verdict :=
  entries.map (Entry.read registry)

namespace RuleSet

open Verdict

variable {σ : Type} (registry : Registry) (sink : Sink σ)

/-- **Lenient reading of entries**: it keeps the rules and reports the faults one by one. -/
theorem readEntries_lenient (i : ℕ) (entries : List Value) (s : σ) :
    let vs := Entry.verdicts registry entries
    readEntries true registry sink i entries s =
      ⟨.ok (kept vs), (faults i vs).length, (faults i vs).foldl sink.report s, trail i vs⟩ := by
  induction entries generalizing i s with
  | nil => rfl
  | cons e es ih =>
    cases h : Entry.read registry e with
    | ok r =>
      simp only [readEntries, h, ih, Entry.verdicts, List.map_cons, kept, faults, trail]
      rfl
    | error k =>
      simp only [readEntries, h, ih, Entry.verdicts, List.map_cons, kept, faults, trail]
      rfl

/-- **Strict reading of entries**: it gives up at the first fault and never reports. -/
theorem readEntries_strict (i : ℕ) (entries : List Value) (s : σ) :
    let vs := Entry.verdicts registry entries
    readEntries false registry sink i entries s =
      match faults i vs with
      | [] => ⟨.ok (kept vs), 0, s, trail i vs⟩
      | d :: _ => ⟨.error d.toError, 0, s, trail i (vs.take (d.index - i))⟩ := by
  induction entries generalizing i s with
  | nil => rfl
  | cons e es ih =>
    cases h : Entry.read registry e with
    | ok r =>
      simp only [readEntries, h, ih, Entry.verdicts, List.map_cons, kept, faults, trail]
      cases hf : faults (i + 1) (es.map (Entry.read registry)) with
      | nil => rfl
      | cons d ds =>
        -- the fault lies behind the entry that was accepted
        have hi : i + 1 ≤ d.index := le_index_of_mem_faults (by rw [hf]; exact List.mem_cons_self)
        have ht : d.index - i = d.index - (i + 1) + 1 := by omega
        simp only [ht, List.take_succ_cons, trail]
        rfl
    | error k =>
      simp only [readEntries, h, Entry.verdicts, List.map_cons, faults, Nat.sub_self,
        List.take_zero, trail]
      rfl

end RuleSet

/-! ### Documents -/

/-- The tree is a filter document: an object with a name and a list of entries. -/
def Value.IsFilter (document name : Value) (entries : List Value) : Prop :=
  ∃ members, document = .obj members ∧ members.lookup ("name" : Text) = some name ∧
    members.lookup ("filters" : Text) = some (.arr entries)

namespace RuleSet

open Verdict

variable {σ : Type} (registry : Registry) (sink : Sink σ)

lemma ofValue_of_isFilter {document name : Value} {entries : List Value}
    (h : document.IsFilter name entries) (skipInvalid : Bool) (s : σ) :
    ofValue skipInvalid registry sink document s =
      readNamed skipInvalid registry sink (nameOf name) entries s := by
  obtain ⟨members, rfl, hn, hf⟩ := h
  simp only [ofValue, Value.members?, hn, hf, Value.items?]

/-- **Lenient reading of a document**: there is always a set, and every fault is reported. -/
theorem ofValue_lenient {document name : Value} {entries : List Value}
    (h : document.IsFilter name entries) (s : σ) :
    let vs := Entry.verdicts registry entries
    ofValue true registry sink document s =
      ⟨.ok (some ⟨nameOf name, kept vs⟩), (faults 0 vs).foldl sink.report s,
        trail 0 vs ++ [.parsed (nameOf name) (kept vs).length (faults 0 vs).length]⟩ := by
  rw [ofValue_of_isFilter registry sink h]
  simp only [readNamed, readEntries_lenient]

/-- **Strict reading of a document**: there is a set when there is no fault, and otherwise the
error of the first. -/
theorem ofValue_strict {document name : Value} {entries : List Value}
    (h : document.IsFilter name entries) (s : σ) :
    let vs := Entry.verdicts registry entries
    ofValue false registry sink document s =
      match faults 0 vs with
      | [] => ⟨.ok (some ⟨nameOf name, kept vs⟩), s,
          trail 0 vs ++ [.parsed (nameOf name) (kept vs).length 0]⟩
      | d :: _ => ⟨.error d.toError, s, trail 0 (vs.take d.index)⟩ := by
  rw [ofValue_of_isFilter registry sink h]
  simp only [readNamed, readEntries_strict]
  cases faults 0 (Entry.verdicts registry entries) <;> rfl

/-- Strict reading when every verdict is a rule. -/
lemma ofValue_strict_of_rules {document name : Value} {entries : List Value} {rules : List Rule}
    (h : document.IsFilter name entries)
    (hvs : Entry.verdicts registry entries = rules.map .ok) (s : σ) :
    ofValue false registry sink document s =
      ⟨.ok (some ⟨nameOf name, rules⟩), s,
        trail 0 (rules.map .ok) ++ [.parsed (nameOf name) rules.length 0]⟩ := by
  rw [ofValue_strict registry sink h]
  simp only [hvs, faults_map_ok, kept_map_ok]

/-- Strict reading when some verdicts are rules and the next is a fault. -/
lemma ofValue_strict_of_fault {document name : Value} {entries : List Value} {rules : List Rule}
    {kind : DiagnosticKind} {vs : List Verdict} (h : document.IsFilter name entries)
    (hvs : Entry.verdicts registry entries = rules.map .ok ++ .error kind :: vs) (s : σ) :
    ofValue false registry sink document s =
      ⟨.error (Diagnostic.toError ⟨rules.length, kind⟩), s, trail 0 (rules.map .ok)⟩ := by
  have hfirst : faults 0 (rules.map .ok ++ .error kind :: vs) =
      ⟨rules.length, kind⟩ :: faults (rules.length + 1) vs := by
    rw [faults_append, faults_map_ok, List.nil_append, faults, List.length_map, Nat.zero_add]
  have htake : (rules.map Except.ok ++ Except.error kind :: vs).take rules.length =
      rules.map Except.ok := List.take_left' (List.length_map ..)
  rw [ofValue_strict registry sink h]
  simp only [hvs, hfirst, htake]

/-- A tree that is no filter document gives nothing, whatever the mode, the registry and the
sink. -/
theorem ofValue_of_not_isFilter (document : Value)
    (h : ∀ name entries, ¬ document.IsFilter name entries) :
    ∃ event : Event, ∀ {σ : Type} (skipInvalid : Bool) (registry : Registry) (sink : Sink σ)
      (s : σ), ofValue skipInvalid registry sink document s = ⟨.ok none, s, [event]⟩ := by
  cases hd : document.members? with
  | none => exact ⟨.rootNotAMapping, fun _ _ _ _ => by simp only [ofValue, hd]⟩
  | some members =>
    have hdoc : document = .obj members := by
      cases document <;> simp_all [Value.members?]
    cases hn : members.lookup ("name" : Text) with
    | none => exact ⟨.keysMissing, fun _ _ _ _ => by simp only [ofValue, hd, hn]⟩
    | some name =>
      cases hf : members.lookup ("filters" : Text) with
      | none => exact ⟨.keysMissing, fun _ _ _ _ => by simp only [ofValue, hd, hn, hf]⟩
      | some filters =>
        cases hi : filters.items? with
        | none =>
          exact ⟨.filtersNotASequence, fun _ _ _ _ => by simp only [ofValue, hd, hn, hf, hi]⟩
        | some entries =>
          have : filters = .arr entries := by
            cases filters <;> simp_all [Value.items?]
          exact absurd ⟨members, hdoc, hn, this ▸ hf⟩ (h name entries)

/-- A set that was read, in either mode, comes from a filter document and holds the rules among
the verdicts on its entries. -/
theorem eq_kept_of_ofValue {registry : Registry} {sink : Sink σ} {document : Value}
    {skipInvalid : Bool} {s : σ} {set : RuleSet}
    (h : (ofValue skipInvalid registry sink document s).result = .ok (some set)) :
    ∃ name entries, document.IsFilter name entries ∧
      set = ⟨nameOf name, kept (Entry.verdicts registry entries)⟩ := by
  by_cases hd : ∃ name entries, document.IsFilter name entries
  · obtain ⟨name, entries, hd⟩ := hd
    refine ⟨name, entries, hd, ?_⟩
    cases skipInvalid with
    | true =>
      rw [ofValue_lenient registry sink hd] at h
      exact (Option.some.inj (Except.ok.inj h)).symm
    | false =>
      rw [ofValue_strict registry sink hd] at h
      cases hf : faults 0 (Entry.verdicts registry entries) with
      | nil =>
        rw [hf] at h
        exact (Option.some.inj (Except.ok.inj h)).symm
      | cons d ds =>
        rw [hf] at h
        cases h
  · obtain ⟨event, he⟩ := ofValue_of_not_isFilter document
      fun name entries hf => hd ⟨name, entries, hf⟩
    rw [he] at h
    cases h

end RuleSet

end TextSieve
