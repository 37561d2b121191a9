import TextSieve.Proofs.Grammar

/-!
Documents that ask for rules. A wish names a method, a pattern, and whether case counts. Making the
wished rules with a registry, one after the other, and reading the document that asks for them come
to the same, also where rules cannot be made.
-/

namespace TextSieve

open Verdict

/-- A rule that is asked for. -/
structure Wish where
  method : Text
  pattern : Text
  caseSensitive : Bool

namespace Wish

/-- Makes the rule that is asked for. -/
def build (registry : Registry) (w : Wish) : Except RuleError Rule :=
  registry.build w.method w.pattern w.caseSensitive

/-- The entry that asks for the rule. -/
def toEntry (w : Wish) : Value :=
  .ofMembers [("method", .str w.method), ("text", .str w.pattern),
    ("case_sensitive", .bool w.caseSensitive)]

/-- The document with a name that asks for rules. -/
def document (name : Text) (ws : List Wish) : Value :=
  .ofMembers [("name", .str name), ("filters", .arr (ws.map toEntry))]

/-- What is reported of wishes, the first of which has the given index. -/
def failures (registry : Registry) (index : ℕ) (ws : List Wish) : List Diagnostic :=
  (ws.zipIdx index).filterMap fun p =>
    match p.1.build registry with
    | .ok _ => none
    | .error e => some ⟨p.2, .ofRuleError e⟩

lemma isFilter_document (name : Text) (ws : List Wish) :
    (document name ws).IsFilter (.str name) (ws.map toEntry) :=
  ⟨_, rfl, rfl, rfl⟩

section Read

variable {registry : Registry}

/-- Reading an entry with all its fields is making its rule. The reader looks the method up
before the constructor does; what it says of an unknown one is what the registry says. -/
lemma read_toEntry (w : Wish) :
    Entry.read registry w.toEntry = (w.build registry).mapError .ofRuleError := by
  have hobj : w.toEntry = .obj [("case_sensitive", .bool w.caseSensitive),
      ("method", .str w.method), ("text", .str w.pattern)] := rfl
  rw [hobj]
  cases hk : registry.find? w.method with
  | some c =>
    rw [(Entry.Judged.built rfl rfl hk (Or.inr rfl)).read_eq, build, Registry.build_of_find? hk]
  | none =>
    have unknown : w.method ∉ registry.methods := by
      rw [Registry.mem_methods, hk]
      rintro ⟨c, hc⟩
      cases hc
    rw [(Entry.Judged.unknownMethod rfl rfl unknown).read_eq, build, Registry.build, hk]
    rfl

lemma verdicts_cons (w : Wish) (ws : List Wish) :
    Entry.verdicts registry ((w :: ws).map toEntry) =
      (w.build registry).mapError .ofRuleError :: Entry.verdicts registry (ws.map toEntry) := by
  rw [← read_toEntry]
  rfl

lemma kept_verdicts (ws : List Wish) :
    kept (Entry.verdicts registry (ws.map toEntry)) =
      ws.filterMap fun w => (w.build registry).toOption := by
  induction ws with
  | nil => rfl
  | cons w ws ih =>
    rw [verdicts_cons, List.filterMap_cons]
    cases hb : w.build registry with
    | ok r => exact congrArg (r :: ·) ih
    | error e => exact ih

lemma faults_verdicts (i : ℕ) (ws : List Wish) :
    faults i (Entry.verdicts registry (ws.map toEntry)) = failures registry i ws := by
  induction ws generalizing i with
  | nil => rfl
  | cons w ws ih =>
    have ih := ih (i + 1)
    rw [verdicts_cons, failures, List.zipIdx_cons, List.filterMap_cons]
    cases hb : w.build registry with
    | ok r => exact ih
    | error e => exact congrArg (_ :: ·) ih

/-- Wishes that can all be made leave no fault. -/
lemma verdicts_of_built {ws : List Wish} {rules : List Rule}
    (h : List.Forall₂ (fun w r => w.build registry = .ok r) ws rules) :
    Entry.verdicts registry (ws.map toEntry) = rules.map Except.ok := by
  induction h with
  | nil => rfl
  | cons hw _ ih =>
    rw [verdicts_cons, hw, ih]
    rfl

/-- Either all wishes can be made, or there is a first that cannot. -/
lemma built_or_first_failure (registry : Registry) (ws : List Wish) :
    (∃ rules, List.Forall₂ (fun w r => w.build registry = .ok r) ws rules) ∨
      ∃ before made w e after, ws = before ++ w :: after ∧
        List.Forall₂ (fun w r => w.build registry = .ok r) before made ∧
        w.build registry = .error e := by
  induction ws with
  | nil => exact Or.inl ⟨[], .nil⟩
  | cons w ws ih =>
    cases hb : w.build registry with
    | error e => exact Or.inr ⟨[], [], w, e, ws, rfl, .nil, hb⟩
    | ok r =>
      rcases ih with ⟨rules, h⟩ | ⟨before, made, v, e, after, rfl, h, he⟩
      · exact Or.inl ⟨r :: rules, .cons hb h⟩
      · exact Or.inr ⟨w :: before, r :: made, v, e, after, rfl, .cons hb h, he⟩

end Read

end Wish

namespace RuleSet

open Wish

/-- The first wish that cannot be made is the first fault of the document. -/
lemma ofValue_first_failure {σ : Type} {registry : Registry} {name : Text}
    {before after : List Wish} {made : List Rule} {w : Wish} {e : RuleError}
    (h : List.Forall₂ (fun w r => w.build registry = .ok r) before made)
    (he : w.build registry = .error e) (sink : Sink σ) (s : σ) :
    (ofValue false registry sink (document name (before ++ w :: after)) s).result =
      .error (Diagnostic.toError ⟨before.length, .ofRuleError e⟩) := by
  have hvs : Entry.verdicts registry ((before ++ w :: after).map toEntry) =
      made.map Except.ok ++ .error (.ofRuleError e) ::
        Entry.verdicts registry (after.map toEntry) := by
    rw [List.map_append, Entry.verdicts, List.map_append, ← Entry.verdicts, ← Entry.verdicts,
      verdicts_of_built h, verdicts_cons, he]
    rfl
  rw [ofValue_strict_of_fault registry sink (isFilter_document name _) hvs, h.length_eq]

/-- **Reading a document of wishes is making them.** In strict reading either all the rules can be
made, and they are the set, or the first error of the registry is the error: of its rule if the
pattern was refused, and of its entry if the method was. In lenient reading exactly the wishes that
cannot be made are reported, and the rules of the others are the set. -/
theorem ofValue_wishes {σ : Type} (registry : Registry) (sink : Sink σ) (name : Text)
    (ws : List Wish) (s : σ) :
    let strict := ofValue false registry sink (document name ws) s
    let lenient := ofValue true registry sink (document name ws) s
    ((∃ rules, List.Forall₂ (fun w r => w.build registry = .ok r) ws rules ∧
        strict.result = .ok (some ⟨name, rules⟩)) ∨
      ∃ before made w e after, ws = before ++ w :: after ∧
        List.Forall₂ (fun w r => w.build registry = .ok r) before made ∧
        w.build registry = .error e ∧
        strict.result = .error (match e with
          | .invalidRegex _ _ => .rule e
          | .unknownMethod method valid =>
            .entry ⟨before.length, .unknownMethod method valid⟩)) ∧
    lenient.result = .ok (some ⟨name, ws.filterMap fun w => (w.build registry).toOption⟩) ∧
    lenient.sink = (failures registry 0 ws).foldl sink.report s := by
  intro strict lenient
  have hl := ofValue_lenient registry sink (isFilter_document name ws) s
  refine ⟨?_, ?_, ?_⟩
  · rcases built_or_first_failure registry ws with
      ⟨rules, h⟩ | ⟨before, made, w, e, after, rfl, h, he⟩
    · refine Or.inl ⟨rules, h, ?_⟩
      have hs := ofValue_strict registry sink (isFilter_document name ws) s
      simp only [verdicts_of_built h, faults_map_ok, kept_map_ok] at hs
      exact congrArg Reading.result hs
    · refine Or.inr ⟨before, made, w, e, after, rfl, h, he, ?_⟩
      rw [ofValue_first_failure h he]
      cases e <;> rfl
  · rw [← kept_verdicts]
    exact congrArg Reading.result hl
  · rw [← faults_verdicts]
    exact congrArg Reading.sink hl

/-- A constructor may itself say that a method is unknown, also of one that is registered. -/
example :
    let registry := Registry.builtin.register "odd" fun p _ => .error (.unknownMethod p ["even"])
    (ofValue false registry .discard
        (document "F" [⟨"contains", "a", true⟩, ⟨"odd", "b", false⟩]) ()).result =
      .error (.entry ⟨1, .unknownMethod "b" ["even"]⟩) :=
  rfl

end RuleSet

end TextSieve
