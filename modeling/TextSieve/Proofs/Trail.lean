import TextSieve.Proofs.Grammar

/-!
The events of a reading as a record of it. Every entry that is read leaves one event, which tells
the rule that the entry became or the fault for which it was left out, and a reading that comes to
its end tells what it has read. A tree that is no filter document leaves one event and nothing else,
and strict reading breaks off at the first fault without another word.
-/

namespace TextSieve

open Verdict

/-! ### What events tell -/

namespace Event

/-- What the log sees of an event: its level, its wording and its fields. -/
def Shows (e : Event) (level : Level) (message : Text) (fields : List (Text × FieldValue)) : Prop :=
  e.level = level ∧ e.message = message ∧ e.fields = fields

/-- The entry at the index was accepted; the rule is told by its method and its pattern. -/
def TellsRule (e : Event) (i : ℕ) (r : Rule) : Prop :=
  e.Shows .debug "accepted filter"
    [("index", .number i), ("method", .text r.method), ("pattern", .text r.pattern)]

/-- An entry was left out; the diagnostic is told by its wording and its kind. -/
def TellsFault (e : Event) (d : Diagnostic) : Prop :=
  e.Shows .debug ("skipping filter: ".toList ++ d.message)
    [("index", .number d.index), ("kind", .text d.kind.name)]

/-- The set has been read, and so many entries were left out. -/
def TellsSet (e : Event) (set : RuleSet) (dropped : ℕ) : Prop :=
  e.Shows .info "parsed filter document"
    [("name", .plain set.name), ("rules", .number set.size), ("skipped", .number dropped)]

/-- The event tells the verdict on the entry at the index. -/
def Tells (e : Event) (i : ℕ) : Verdict → Prop
  | .ok r => e.TellsRule i r
  | .error k => e.TellsFault ⟨i, k⟩

/-- The event says that an entry was accepted. -/
def saysAccepted (e : Event) : Bool := e.message == "accepted filter"

lemma tellsRule_accepted (i : ℕ) (r : Rule) :
    (accepted i r.method r.pattern).TellsRule i r := ⟨rfl, rfl, rfl⟩

lemma tellsFault_skipped (d : Diagnostic) : (skipped d).TellsFault d := ⟨rfl, rfl, rfl⟩

lemma tellsSet_parsed (name : Text) (rules : List Rule) (dropped : ℕ) :
    (parsed name rules.length dropped).TellsSet ⟨name, rules⟩ dropped := ⟨rfl, rfl, rfl⟩

lemma saysAccepted_accepted (i : ℕ) (method pattern : Text) :
    (accepted i method pattern).saysAccepted = true := rfl

/-- The wordings differ in their first characters. -/
lemma saysAccepted_skipped (d : Diagnostic) : (skipped d).saysAccepted = false := rfl

end Event

open Event

/-! ### The events of the entries -/

/-- The events tell the verdicts, one after the other; the first verdict has the given index. -/
def TellAll (i : ℕ) (es : List Event) (vs : List Verdict) : Prop :=
  List.Forall₂ (fun e v => e.Tells v.2 v.1) es (vs.zipIdx i)

/-- The events tell the rules, one after the other, as the first entries of their document. -/
def TellRules (es : List Event) (rules : List Rule) : Prop :=
  List.Forall₂ (fun e r => e.TellsRule r.2 r.1) es rules.zipIdx

lemma tellAll_trail (i : ℕ) (vs : List Verdict) : TellAll i (trail i vs) vs := by
  induction vs generalizing i with
  | nil => exact .nil
  | cons v vs ih =>
    cases v with
    | ok r => exact .cons (tellsRule_accepted i r) (ih (i + 1))
    | error k => exact .cons (tellsFault_skipped ⟨i, k⟩) (ih (i + 1))

lemma tellRules_trail (rules : List Rule) : TellRules (trail 0 (rules.map .ok)) rules := by
  have h := tellAll_trail 0 (rules.map Except.ok)
  rw [TellAll, List.zipIdx_map, List.forall₂_map_right_iff] at h
  exact h

/-- The events of accepted entries are those of the rules that are kept. -/
lemma filter_saysAccepted_trail (i : ℕ) (vs : List Verdict) :
    List.Forall₂ (fun e r => ∃ j, TellsRule e j r) ((trail i vs).filter saysAccepted)
      (kept vs) := by
  induction vs generalizing i with
  | nil => exact .nil
  | cons v vs ih =>
    cases v with
    | ok r =>
      rw [trail, List.filter_cons_of_pos (saysAccepted_accepted ..)]
      exact .cons ⟨i, tellsRule_accepted i r⟩ (ih (i + 1))
    | error k =>
      rw [trail, List.filter_cons_of_neg (Bool.eq_false_iff.1 (saysAccepted_skipped ⟨i, k⟩))]
      exact ih (i + 1)

/-- The other events are those of the faults. -/
lemma filter_not_saysAccepted_trail (i : ℕ) (vs : List Verdict) :
    List.Forall₂ TellsFault ((trail i vs).filter fun e => !e.saysAccepted) (faults i vs) := by
  induction vs generalizing i with
  | nil => exact .nil
  | cons v vs ih =>
    cases v with
    | ok r =>
      rw [trail, List.filter_cons_of_neg (by rw [saysAccepted_accepted]; decide)]
      exact ih (i + 1)
    | error k =>
      rw [trail, List.filter_cons_of_pos (by rw [saysAccepted_skipped]; rfl)]
      exact .cons (tellsFault_skipped ⟨i, k⟩) (ih (i + 1))

/-- What the events of lenient reading have to do with the entries, the rules of the set, and the
diagnostics that are reported. -/
structure Recorded (registry : Registry) (entries : List Value) (rules : List Rule)
    (ds : List Diagnostic) (es : List Event) : Prop where
  /-- There is one event for each entry, which tells the verdict on it. -/
  verdicts : ∃ vs, List.Forall₂ (Entry.Judged registry) entries vs ∧ TellAll 0 es vs
  /-- The events of accepted entries are those of the rules, in order. -/
  accepted : List.Forall₂ (fun e r => ∃ i, TellsRule e i r) (es.filter saysAccepted) rules
  /-- The other events are those of the diagnostics, in order. -/
  dropped : List.Forall₂ TellsFault (es.filter fun e => !e.saysAccepted) ds

lemma recorded_trail (registry : Registry) (entries : List Value) :
    let vs := Entry.verdicts registry entries
    Recorded registry entries (kept vs) (faults 0 vs) (trail 0 vs) :=
  ⟨⟨_, Entry.forall₂_judged_iff.2 rfl, tellAll_trail 0 _⟩, filter_saysAccepted_trail 0 _,
    filter_not_saysAccepted_trail 0 _⟩

/-! ### Entries up to the first fault -/

namespace Entry

variable {registry : Registry} {entries : List Value}

/-- The entries give the rules, one for each. -/
def Give (registry : Registry) (entries : List Value) (rules : List Rule) : Prop :=
  List.Forall₂ (fun entry r => Judged registry entry (.ok r)) entries rules

lemma Give.verdicts_eq {rules : List Rule} (h : Give registry entries rules) :
    verdicts registry entries = rules.map .ok := by
  unfold Give at h
  rw [← List.forall₂_map_right_iff (f := Except.ok)] at h
  exact (forall₂_judged_iff.1 h).symm

lemma Give.verdicts_append_fault {rules : List Rule} (h : Give registry entries rules)
    {entry : Value} {kind : DiagnosticKind} (hfault : Judged registry entry (.error kind))
    (back : List Value) : verdicts registry (entries ++ entry :: back) =
      rules.map .ok ++ .error kind :: verdicts registry back := by
  rw [← h.verdicts_eq, verdicts, List.map_append, List.map_cons, hfault.read_eq]
  rfl

/-- There are rules from all entries, or from those before the first that is at fault. -/
lemma give_or_first_fault (registry : Registry) (entries : List Value) :
    (∃ rules, Give registry entries rules) ∨
      ∃ front entry back kind rules, entries = front ++ entry :: back ∧
        Give registry front rules ∧ Judged registry entry (.error kind) := by
  induction entries with
  | nil => exact Or.inl ⟨[], .nil⟩
  | cons e es ih =>
    obtain ⟨v, hv⟩ := exists_judged registry e
    cases v with
    | error kind => exact Or.inr ⟨[], e, es, kind, [], rfl, .nil, hv⟩
    | ok r =>
      rcases ih with ⟨rules, hrules⟩ | ⟨front, entry, back, kind, rules, rfl, hrules, hfault⟩
      · exact Or.inl ⟨r :: rules, .cons hv hrules⟩
      · exact Or.inr ⟨e :: front, entry, back, kind, r :: rules, rfl, .cons hv hrules, hfault⟩

end Entry

/-! ### The events of a document -/

namespace RuleSet

section Events

variable {σ : Type} (registry : Registry) (sink : Sink σ) (s : σ)

/-- A tree that is no filter document leaves one event. -/
lemma events_of_lacksFilters {document : Value} (h : document.LacksFilters) (skipInvalid : Bool) :
    ∃ e : Event, (ofValue skipInvalid registry sink document s).events = [e] ∧
      e.level = .debug := by
  rcases h with h | ⟨members, rfl, hn | hf | ⟨v, hv, harr⟩⟩
  · cases document with
    | obj members => exact absurd rfl (h members)
    | _ => exact ⟨.rootNotAMapping, rfl, rfl⟩
  · exact ⟨.keysMissing, by simp only [ofValue, Value.members?, hn], rfl⟩
  · refine ⟨.keysMissing, ?_, rfl⟩
    simp only [ofValue, Value.members?, hf]
    cases members.lookup ("name" : Text) <;> rfl
  · cases hn : members.lookup ("name" : Text) with
    | none => exact ⟨.keysMissing, by simp only [ofValue, Value.members?, hn], rfl⟩
    | some name =>
      have hitems : v.items? = none := by
        cases v with
        | arr entries => exact absurd rfl (harr entries)
        | _ => rfl
      exact ⟨.filtersNotASequence, by simp only [ofValue, Value.members?, hn, hv, hitems], rfl⟩

end Events

/-- **The events of a reading are a faithful record of it.** A tree that is no filter document
leaves one event. Lenient reading leaves one event for each entry, which tells the verdict on it,
and one for the set. Strict reading tells the rules of all entries and the set; or, if there is a
fault, the rules of the entries before the first, and nothing more. -/
theorem events_faithful {σ : Type} (skipInvalid : Bool) (registry : Registry) (sink : Sink σ)
    (document : Value) (s : σ) :
    let reading := ofValue skipInvalid registry sink document s
    (document.LacksFilters ∧ ∃ e : Event, reading.events = [e] ∧ e.level = .debug) ∨
      ∃ name entries, document.IsFilter name entries ∧
        match skipInvalid with
        | true =>
          ∃ set ds es e, reading.result = .ok (some set) ∧
            reading.sink = ds.foldl sink.report s ∧
            (ofValue true registry .collect document []).sink = ds ∧
            reading.events = es ++ [e] ∧ Recorded registry entries set.rules ds es ∧
            e.TellsSet set ds.length
        | false =>
          (∃ set es e, reading.result = .ok (some set) ∧
            Entry.Give registry entries set.rules ∧ reading.events = es ++ [e] ∧
            TellRules es set.rules ∧ e.TellsSet set 0) ∨
          ∃ front entry back kind rules, entries = front ++ entry :: back ∧
            Entry.Give registry front rules ∧ Entry.Judged registry entry (.error kind) ∧
            reading.result = .error (Diagnostic.toError ⟨front.length, kind⟩) ∧
            TellRules reading.events rules := by
  intro reading
  rcases document.lacksFilters_or_isFilter with hlacks | ⟨name, entries, h⟩
  · exact Or.inl ⟨hlacks, events_of_lacksFilters registry sink s hlacks skipInvalid⟩
  refine Or.inr ⟨name, entries, h, ?_⟩
  cases skipInvalid with
  | true =>
    have hread : reading = _ := ofValue_lenient registry sink h s
    rw [hread]
    exact ⟨_, _, _, _, rfl, rfl, (lenient_collect registry h).2, rfl,
      recorded_trail registry entries, tellsSet_parsed ..⟩
  | false =>
    rcases Entry.give_or_first_fault registry entries with
      ⟨rules, hrules⟩ | ⟨front, entry, back, kind, rules, rfl, hrules, hfault⟩
    · have hread : reading = _ := ofValue_strict_of_rules registry sink h hrules.verdicts_eq s
      rw [hread]
      exact Or.inl ⟨_, _, _, rfl, hrules, rfl, tellRules_trail rules, tellsSet_parsed ..⟩
    · have hvs := hrules.verdicts_append_fault hfault back
      have hread : reading = _ := ofValue_strict_of_fault registry sink h hvs s
      rw [hread, ← hrules.length_eq]
      exact Or.inr ⟨front, entry, back, kind, rules, rfl, hrules, hfault, rfl,
        tellRules_trail rules⟩

end RuleSet

end TextSieve
