import Mathlib.Data.List.Forall2
import TextSieve.Proofs.Verdicts

/-!
How strict and lenient reading of a document are tied together. Strict reading fails with the
first diagnostic of the lenient one and agrees with it when there is none. Lenient reading gives
account of every entry: each is a rule or a diagnostic, in order, and would be the same if it
stood alone.
-/

namespace TextSieve

/-! ### One document in both modes -/

/-- A fault of a pattern is the error of its rule; every other fault is an error of its entry. -/
lemma Diagnostic.toError_cases (d : Diagnostic) :
    (∃ e, d.kind = .patternCompile e ∧ d.toError = .rule e) ∨
      (∀ e, d.kind ≠ .patternCompile e) ∧ d.toError = .entry d := by
  obtain ⟨i, k⟩ := d
  cases k with
  | patternCompile e => exact Or.inl ⟨e, rfl, rfl⟩
  | _ => exact Or.inr ⟨nofun, rfl⟩

/-- The collecting sink holds what it held before and the reports behind it. -/
lemma Sink.foldl_collect (ds es : List Diagnostic) :
    es.foldl Sink.collect.report ds = ds ++ es := by
  induction es generalizing ds with
  | nil => simp
  | cons e es ih =>
    rw [List.foldl_cons, ih]
    simp [Sink.collect]

lemma mapError_eq_error {α β γ : Type} {f : α → β} {r : Except α γ} {b : β}
    (h : r.mapError f = .error b) : ∃ a, r = .error a ∧ b = f a := by
  cases r with
  | error a => exact ⟨a, rfl, (Except.error.inj h).symm⟩
  | ok c => exact nomatch h

lemma decode_error {format : Format} {text : Text} {e : FilterError}
    (h : decode format text = .error e) : ∃ m, e = .parsing m := by
  obtain ⟨m, -, rfl⟩ := mapError_eq_error h
  exact ⟨m, rfl⟩

namespace RuleSet

open Verdict

section Modes

variable {σ : Type} (registry : Registry) (sink : Sink σ)

/-- The lenient reading of a filter document, with the collecting sink. -/
lemma lenient_collect {document name : Value} {entries : List Value}
    (h : document.IsFilter name entries) :
    (ofValue true registry .collect document []).result =
        .ok (some ⟨nameOf name, kept (Entry.verdicts registry entries)⟩) ∧
      (ofValue true registry .collect document []).sink =
        faults 0 (Entry.verdicts registry entries) := by
  rw [ofValue_lenient registry .collect h]
  exact ⟨rfl, by simp [Sink.foldl_collect]⟩

/-- **Strict and lenient reading agree.** Lenient reading never fails. Strict reading gives
nothing where lenient reading does, the same set where that reports nothing, and otherwise the
error of the first report: of its rule if the pattern was at fault, and of its entry if not. A
text that is no document is the same error in both modes. -/
theorem strict_agrees_with_lenient (s : σ) :
    (∀ document : Value,
      let lenient := ofValue true registry .collect document []
      let strict := ofValue false registry sink document s
      ∃ outcome, lenient.result = .ok outcome ∧
        match outcome, lenient.sink with
        | none, ds => strict.result = .ok none ∧ ds = []
        | some set, [] => strict.result = .ok (some set)
        | some _, d :: _ => strict.result = .error d.toError ∧
            ((∃ e, d.kind = .patternCompile e ∧ d.toError = .rule e) ∨
              (∀ e, d.kind ≠ .patternCompile e) ∧ d.toError = .entry d)) ∧
    ∀ (format : Format) (text : Text),
      match decode format text with
      | .error e => (∃ m, e = .parsing m) ∧ ∀ skipInvalid,
          (ofText ⟨skipInvalid, format⟩ registry sink text s).result = .error e
      | .ok document => ∀ skipInvalid, ofText ⟨skipInvalid, format⟩ registry sink text s =
          ofValue skipInvalid registry sink document s := by
  refine ⟨fun document => ?_, fun format text => ?_⟩
  · by_cases h : ∃ name entries, document.IsFilter name entries
    · obtain ⟨name, entries, h⟩ := h
      obtain ⟨hr, hs⟩ := lenient_collect registry h
      refine ⟨_, hr, ?_⟩
      rw [hs, ofValue_strict registry sink h]
      cases faults 0 (Entry.verdicts registry entries) with
      | nil => rfl
      | cons d ds => exact ⟨rfl, d.toError_cases⟩
    · obtain ⟨event, he⟩ := ofValue_of_not_isFilter document
        fun name entries hd => h ⟨name, entries, hd⟩
      refine ⟨none, by rw [he], ?_⟩
      rw [he, he]
      exact ⟨rfl, rfl⟩
  · cases h : decode format text with
    | error e => exact ⟨decode_error h, fun skipInvalid => by simp only [ofText, h]⟩
    | ok document => exact fun skipInvalid => by simp only [ofText, h]

end Modes

end RuleSet

/-! ### What lenient reading leaves over -/

/-- A list without the items at the given positions. -/
def without {α : Type} (positions : List ℕ) (xs : List α) : List α :=
  (xs.zipIdx.filter fun p => p.2 ∉ positions).map Prod.fst

namespace Verdict

/-- The items at the places of the faults go, those at the places of the rules stay. -/
lemma forall₂_filter_zipIdx {α : Type} (f : α → Verdict) (i : ℕ) (xs : List α) :
    List.Forall₂ (fun x r => f x = .ok r)
      (((xs.zipIdx i).filter fun p => p.2 ∉ (faults i (xs.map f)).map (·.index)).map Prod.fst)
      (kept (xs.map f)) := by
  induction xs generalizing i with
  | nil => exact List.Forall₂.nil
  | cons x xs ih =>
    have ih := ih (i + 1)
    -- no later index is the first
    have hlt : ∀ p ∈ xs.zipIdx (i + 1), i < p.2 := fun p hp => List.le_snd_of_mem_zipIdx hp
    cases h : f x with
    | ok r =>
      have hi : i ∉ (faults (i + 1) (xs.map f)).map (·.index) := by
        intro hi
        obtain ⟨d, hd, rfl⟩ := List.mem_map.1 hi
        have := le_index_of_mem_faults hd
        omega
      rw [List.map_cons, h, faults, kept, List.zipIdx_cons, List.filter_cons,
        if_pos (by simpa using hi), List.map_cons]
      exact List.Forall₂.cons h ih
    | error k =>
      rw [List.map_cons, h, faults, kept, List.zipIdx_cons, List.filter_cons_of_neg (by simp)]
      rw [List.filter_congr (q := fun p => p.2 ∉ (faults (i + 1) (xs.map f)).map (·.index))]
      · exact ih
      · intro p hp
        have := hlt p hp
        simp only [List.map_cons, List.mem_cons, not_or]
        rw [decide_eq_decide]
        exact ⟨And.right, fun h => ⟨by omega, h⟩⟩

end Verdict

/-! ### Entries that stand alone -/

namespace RuleSet

open Verdict

/-- Read strictly as the only entry of a document, the entry gives the rule. -/
def AloneGives (registry : Registry) (entry : Value) (rule : Rule) : Prop :=
  ∀ {σ : Type} (sink : Sink σ) (s : σ) (document name : Value), document.IsFilter name [entry] →
    (ofValue false registry sink document s).result = .ok (some ⟨nameOf name, [rule]⟩)

/-- As the only entry of a document, the entry is at fault: strict reading fails, and lenient
reading reports the fault at index zero. -/
def AloneFails (registry : Registry) (entry : Value) (kind : DiagnosticKind) : Prop :=
  ∀ (document name : Value), document.IsFilter name [entry] →
    (∀ {σ : Type} (sink : Sink σ) (s : σ),
      (ofValue false registry sink document s).result =
        .error (Diagnostic.toError ⟨0, kind⟩)) ∧
    (ofValue true registry .collect document []).result = .ok (some ⟨nameOf name, []⟩) ∧
    (ofValue true registry .collect document []).sink = [⟨0, kind⟩]

section Alone

variable {registry : Registry} {entry : Value}

lemma aloneGives_of_read {rule : Rule} (h : Entry.read registry entry = .ok rule) :
    AloneGives registry entry rule := by
  intro σ sink s document name hd
  rw [ofValue_strict registry sink hd]
  simp only [Entry.verdicts, List.map_cons, List.map_nil, h, faults, kept]

lemma aloneFails_of_read {kind : DiagnosticKind} (h : Entry.read registry entry = .error kind) :
    AloneFails registry entry kind := by
  intro document name hd
  obtain ⟨hr, hs⟩ := lenient_collect registry hd
  simp only [Entry.verdicts, List.map_cons, List.map_nil, h, faults, kept] at hr hs
  refine ⟨fun sink s => ?_, hr, hs⟩
  rw [ofValue_strict registry sink hd]
  simp only [Entry.verdicts, List.map_cons, List.map_nil, h, faults]

end Alone

/-! ### The account of all entries -/

/-- What a lenient reading with the rules and the diagnostics owes to the entries of its
document. -/
structure Accounts (registry : Registry) (entries : List Value) (rules : List Rule)
    (ds : List Diagnostic) : Prop where
  /-- Every entry is a rule or a diagnostic. -/
  total : rules.length + ds.length = entries.length
  /-- Diagnostics come in the order of their entries, and only one for each. -/
  increasing : (ds.map (·.index)).Pairwise (· < ·)
  bounded : ∀ d ∈ ds, d.index < entries.length
  /-- The other entries are as many as the rules, and each alone gives its rule. -/
  remaining : List.Forall₂ (AloneGives registry) (without (ds.map (·.index)) entries) rules
  /-- An entry with a diagnostic has the same fault alone. -/
  rejected : ∀ d ∈ ds, ∃ entry, entries[d.index]? = some entry ∧ AloneFails registry entry d.kind

theorem accounts_verdicts (registry : Registry) (entries : List Value) :
    Accounts registry entries (kept (Entry.verdicts registry entries))
      (faults 0 (Entry.verdicts registry entries)) where
  total := by
    rw [length_kept_add_length_faults, Entry.verdicts, List.length_map]
  increasing := List.pairwise_map.2 (faults_pairwise 0 _)
  bounded d hd := by
    have := index_lt_of_mem_faults hd
    rwa [Entry.verdicts, List.length_map, Nat.zero_add] at this
  remaining :=
    (forall₂_filter_zipIdx (Entry.read registry) 0 entries).imp fun _ _ => aloneGives_of_read
  rejected d hd := by
    obtain ⟨-, hv⟩ := mem_faults.1 hd
    rw [Entry.verdicts, List.getElem?_map, Nat.sub_zero, Option.map_eq_some_iff] at hv
    obtain ⟨entry, he, hk⟩ := hv
    exact ⟨entry, he, aloneFails_of_read hk⟩

/-- **Lenient reading gives account of every entry.** Nothing is lost, doubled or reordered, and
no entry depends on its neighbours. So the reading of two lists of entries, one behind the other,
is the readings of both, one behind the other. -/
theorem lenient_accounts (registry : Registry) {document name : Value} {entries : List Value}
    (h : document.IsFilter name entries) :
    ∃ set ds, (ofValue true registry .collect document []).result = .ok (some set) ∧
      (ofValue true registry .collect document []).sink = ds ∧
      Accounts registry entries set.rules ds ∧
      ∀ (first second : List Value), entries = first ++ second →
        ∀ document₁ name₁ document₂ name₂, Value.IsFilter document₁ name₁ first →
          Value.IsFilter document₂ name₂ second →
          ∃ set₁ ds₁ set₂ ds₂,
            (ofValue true registry .collect document₁ []).result = .ok (some set₁) ∧
            (ofValue true registry .collect document₁ []).sink = ds₁ ∧
            (ofValue true registry .collect document₂ []).result = .ok (some set₂) ∧
            (ofValue true registry .collect document₂ []).sink = ds₂ ∧
            set.rules = set₁.rules ++ set₂.rules ∧
            ds = ds₁ ++ ds₂.map (Diagnostic.shift first.length) := by
  obtain ⟨hr, hs⟩ := lenient_collect registry h
  refine ⟨_, _, hr, hs, accounts_verdicts registry entries, ?_⟩
  rintro first second rfl document₁ name₁ document₂ name₂ h₁ h₂
  obtain ⟨hr₁, hs₁⟩ := lenient_collect registry h₁
  obtain ⟨hr₂, hs₂⟩ := lenient_collect registry h₂
  refine ⟨_, _, _, _, hr₁, hs₁, hr₂, hs₂, ?_, ?_⟩
  · simp only [Entry.verdicts, List.map_append, kept_append]
  · have hl : (first.map (Entry.read registry)).length = first.length := List.length_map ..
    rw [Entry.verdicts, List.map_append, faults_append, hl, faults_add]
    rfl

/-- Entries of which the second is no object and the third lacks its pattern. -/
def mixedEntries : List Value :=
  [.obj [("method", .str "contains"), ("text", .str "a")], .null,
    .obj [("method", .str "endswith")],
    .obj [("case_sensitive", .bool true), ("method", .str "endswith"), ("text", .str ".log")]]

/-- Two of four entries are left out, and the account holds. -/
theorem lenient_accounts_mixedEntries :
    let document : Value := .obj [("filters", .arr mixedEntries), ("name", .str "F")]
    document.IsFilter (.str "F") mixedEntries ∧
      ∃ set, (ofValue true .builtin .collect document []).result = .ok (some set) ∧
        (ofValue true .builtin .collect document []).sink.map (·.index) = [1, 2] ∧
        Accounts .builtin mixedEntries set.rules
          (ofValue true .builtin .collect document []).sink := by
  have h : Value.IsFilter (.obj [("filters", .arr mixedEntries), ("name", .str "F")]) (.str "F")
      mixedEntries := ⟨_, rfl, rfl, rfl⟩
  obtain ⟨set, ds, hr, hs, ha, -⟩ := lenient_accounts .builtin h
  exact ⟨h, set, hr, by decide, hs ▸ ha⟩

end RuleSet

end TextSieve
