import TextSieve.Proofs.Recovery

/-!
The grammar of filter documents. Which trees are filter documents is a matter of their root
alone. How an entry is judged is written down as a relation with one rule for each check, each of
which asks that the checks before it have passed; reading an entry finds the one verdict that the
relation allows.
-/

namespace TextSieve

/-! ### Registered methods -/

lemma Registry.mem_methods {registry : Registry} {method : Text} :
    method ∈ registry.methods ↔ ∃ c, registry.find? method = some c := by
  unfold Registry.methods Registry.find?
  rw [← Option.isSome_iff_exists, List.lookup_isSome_iff, List.mem_map]
  simp only [beq_iff_eq]
  exact ⟨fun ⟨p, hp, h⟩ => ⟨p, hp, h.symm⟩, fun ⟨p, hp, h⟩ => ⟨p, hp, h.symm⟩⟩

lemma Registry.contains_iff {registry : Registry} {method : Text} :
    registry.contains method = true ↔ method ∈ registry.methods := by
  rw [Registry.mem_methods, Registry.contains, Option.isSome_iff_exists]

lemma Registry.build_of_find? {registry : Registry} {method : Text} {c : Constructor}
    (h : registry.find? method = some c) (pattern : Text) (caseSensitive : Bool) :
    registry.build method pattern caseSensitive = c pattern caseSensitive := by
  unfold Registry.build
  rw [h]

/-! ### The fields of an entry -/

namespace Entry

section Fields

variable {members : List (Text × Value)} {key : Text}

lemma textField_str {t : Text} (h : members.lookup key = some (.str t)) :
    textField members key = .ok t := by
  unfold textField
  rw [h]
  rfl

lemma textField_error {v : Value} (h : members.lookup key = some v) (hv : ∀ t, v ≠ .str t) :
    textField members key = .error (.invalidField key "a string") := by
  unfold textField
  rw [h]
  cases v with
  | str t => exact absurd rfl (hv t)
  | _ => rfl

/-- Case counts in the entry as the flag says. -/
def CaseFlag (members : List (Text × Value)) (flag : Bool) : Prop :=
  (members.lookup ("case_sensitive" : Text) = none ∨
    members.lookup ("case_sensitive" : Text) = some .null) ∧ flag = false ∨
  members.lookup ("case_sensitive" : Text) = some (.bool flag)

lemma caseField_of_caseFlag {flag : Bool} (h : CaseFlag members flag) :
    caseField members = .ok flag := by
  unfold caseField
  rcases h with ⟨h | h, rfl⟩ | h <;> rw [h]

lemma caseField_error {v : Value} (h : members.lookup ("case_sensitive" : Text) = some v)
    (hnull : v ≠ .null) (hbool : ∀ b, v ≠ .bool b) :
    caseField members = .error (.invalidField "case_sensitive" "a boolean") := by
  unfold caseField
  rw [h]
  cases v with
  | null => exact absurd rfl hnull
  | bool b => exact absurd rfl (hbool b)
  | _ => rfl

/-- The key, if the entry lacks it. -/
def absent (members : List (Text × Value)) (key : Text) : List Text :=
  if (members.lookup key).isNone then [key] else []

lemma missing_eq : missing members = absent members "text" ++ absent members "method" := by
  unfold missing required absent
  rw [List.filter_cons, List.filter_cons, List.filter_nil]
  cases (members.lookup ("text" : Text)).isNone <;> rfl

end Fields

/-! ### The verdicts -/

/-- **How an entry is judged.** Each rule asks that the checks of the rules before it have
passed. -/
inductive Judged (registry : Registry) : Value → Verdict → Prop
  | notAMapping {entry : Value} (shape : ∀ members, entry ≠ .obj members) :
      Judged registry entry (.error .notAMapping)
  | missing {members : List (Text × Value)}
      (lacks : members.lookup ("text" : Text) = none ∨ members.lookup ("method" : Text) = none) :
      Judged registry (.obj members)
        (.error (.missingParams (absent members "text" ++ absent members "method")
          ["text", "method"]))
  | methodType {members : List (Text × Value)} {text method : Value}
      (hasText : members.lookup ("text" : Text) = some text)
      (hasMethod : members.lookup ("method" : Text) = some method)
      (type : ∀ m, method ≠ .str m) :
      Judged registry (.obj members) (.error (.invalidField "method" "a string"))
  | unknownMethod {members : List (Text × Value)} {text : Value} {m : Text}
      (hasText : members.lookup ("text" : Text) = some text)
      (hasMethod : members.lookup ("method" : Text) = some (.str m))
      (unknown : m ∉ registry.methods) :
      Judged registry (.obj members) (.error (.unknownMethod m registry.methods))
  | caseType {members : List (Text × Value)} {text flag : Value} {m : Text}
      (hasText : members.lookup ("text" : Text) = some text)
      (hasMethod : members.lookup ("method" : Text) = some (.str m))
      (known : m ∈ registry.methods)
      (hasFlag : members.lookup ("case_sensitive" : Text) = some flag)
      (notNull : flag ≠ .null) (type : ∀ b, flag ≠ .bool b) :
      Judged registry (.obj members) (.error (.invalidField "case_sensitive" "a boolean"))
  | textType {members : List (Text × Value)} {text : Value} {m : Text} {b : Bool}
      (hasText : members.lookup ("text" : Text) = some text)
      (hasMethod : members.lookup ("method" : Text) = some (.str m))
      (known : m ∈ registry.methods) (flag : CaseFlag members b)
      (type : ∀ t, text ≠ .str t) :
      Judged registry (.obj members) (.error (.invalidField "text" "a string"))
  | built {members : List (Text × Value)} {m t : Text} {b : Bool} {c : Constructor}
      (hasText : members.lookup ("text" : Text) = some (.str t))
      (hasMethod : members.lookup ("method" : Text) = some (.str m))
      (known : registry.find? m = some c) (flag : CaseFlag members b) :
      Judged registry (.obj members) ((c t b).mapError .ofRuleError)

section Read

variable {registry : Registry}

lemma read_of_lacks {members : List (Text × Value)}
    (h : members.lookup ("text" : Text) = none ∨ members.lookup ("method" : Text) = none) :
    read registry (.obj members) =
      .error (.missingParams (absent members "text" ++ absent members "method")
        ["text", "method"]) := by
  have hne : missing members ≠ [] := by
    rw [missing_eq]
    unfold absent
    rcases h with h | h
    · rw [h]
      exact List.append_ne_nil_of_left_ne_nil (List.cons_ne_nil _ _) _
    · rw [h]
      exact List.append_ne_nil_of_right_ne_nil _ (List.cons_ne_nil _ _)
  unfold read
  simp only [Value.members?]
  rw [if_pos hne, missing_eq]
  rfl

/-- An entry with a text and a method is read field by field: the method, whether it is
registered, whether case counts, and the text. -/
lemma read_of_has {members : List (Text × Value)} {text method : Value}
    (ht : members.lookup ("text" : Text) = some text)
    (hm : members.lookup ("method" : Text) = some method) :
    read registry (.obj members) = (do
      let m ← textField members "method"
      if m ∈ registry.methods then
        let b ← caseField members
        let t ← textField members "text"
        (registry.build m t b).mapError DiagnosticKind.ofRuleError
      else .error (.unknownMethod m registry.methods)) := by
  have hnil : missing members = [] := by
    rw [missing_eq]
    unfold absent
    rw [ht, hm]
    rfl
  unfold read
  simp only [Value.members?]
  rw [if_neg (not_not_intro hnil)]
  congr 1
  funext m
  by_cases h : m ∈ registry.methods
  · rw [if_pos h, Registry.contains_iff.2 h]
    rfl
  · have hc : registry.contains m = false := by
      rw [← Bool.not_eq_true, Registry.contains_iff]
      exact h
    rw [if_neg h, hc]
    rfl

/-- Reading an entry gives the verdict of the grammar. -/
theorem Judged.read_eq {entry : Value} {v : Verdict} (h : Judged registry entry v) :
    read registry entry = v := by
  cases h with
  | notAMapping shape =>
    cases entry with
    | obj members => exact absurd rfl (shape members)
    | _ => rfl
  | missing lacks => exact read_of_lacks lacks
  | methodType hasText hasMethod type =>
    rw [read_of_has hasText hasMethod, textField_error hasMethod type]
    rfl
  | unknownMethod hasText hasMethod unknown =>
    rw [read_of_has hasText hasMethod, textField_str hasMethod]
    exact if_neg unknown
  | caseType hasText hasMethod known hasFlag notNull type =>
    rw [read_of_has hasText hasMethod, textField_str hasMethod,
      caseField_error hasFlag notNull type]
    exact if_pos known
  | textType hasText hasMethod known flag type =>
    rw [read_of_has hasText hasMethod, textField_str hasMethod, caseField_of_caseFlag flag,
      textField_error hasText type]
    exact if_pos known
  | @built members m t b c hasText hasMethod known flag =>
    have hm : m ∈ registry.methods := Registry.mem_methods.2 ⟨c, known⟩
    rw [read_of_has hasText hasMethod, textField_str hasMethod, caseField_of_caseFlag flag,
      textField_str hasText]
    refine (if_pos hm).trans ?_
    rw [← Registry.build_of_find? known]
    rfl

lemma exists_judged_of_method {members : List (Text × Value)} {text : Value} {m : Text}
    (ht : members.lookup ("text" : Text) = some text)
    (hm : members.lookup ("method" : Text) = some (.str m)) :
    ∃ v, Judged registry (.obj members) v := by
  by_cases hk : m ∈ registry.methods
  · obtain ⟨c, hc⟩ := Registry.mem_methods.1 hk
    by_cases hb : ∃ b, CaseFlag members b
    · obtain ⟨b, hb⟩ := hb
      by_cases hstr : ∃ t, text = .str t
      · obtain ⟨t, rfl⟩ := hstr
        exact ⟨_, .built ht hm hc hb⟩
      · exact ⟨_, .textType ht hm hk hb fun t h => hstr ⟨t, h⟩⟩
    · cases hf : members.lookup ("case_sensitive" : Text) with
      | none => exact absurd ⟨false, Or.inl ⟨Or.inl hf, rfl⟩⟩ hb
      | some flag =>
        refine ⟨_, .caseType ht hm hk hf ?_ ?_⟩
        · rintro rfl
          exact hb ⟨false, Or.inl ⟨Or.inr hf, rfl⟩⟩
        · rintro b rfl
          exact hb ⟨b, Or.inr hf⟩
  · exact ⟨_, .unknownMethod ht hm hk⟩

/-- The rules of the grammar leave no entry out. -/
lemma exists_judged (registry : Registry) (entry : Value) : ∃ v, Judged registry entry v := by
  cases entry with
  | obj members =>
    cases ht : members.lookup ("text" : Text) with
    | none => exact ⟨_, .missing (Or.inl ht)⟩
    | some text =>
      cases hm : members.lookup ("method" : Text) with
      | none => exact ⟨_, .missing (Or.inr hm)⟩
      | some method =>
        by_cases hstr : ∃ m, method = .str m
        · obtain ⟨m, rfl⟩ := hstr
          exact exists_judged_of_method ht hm
        · exact ⟨_, .methodType ht hm fun m h => hstr ⟨m, h⟩⟩
  | _ => exact ⟨_, .notAMapping nofun⟩

/-- The relation and the reader are the same. -/
theorem judged_iff {entry : Value} {v : Verdict} :
    Judged registry entry v ↔ read registry entry = v := by
  refine ⟨Judged.read_eq, ?_⟩
  rintro rfl
  obtain ⟨v, h⟩ := exists_judged registry entry
  rwa [h.read_eq]

lemma forall₂_judged_iff {entries : List Value} {vs : List Verdict} :
    List.Forall₂ (Judged registry) entries vs ↔ vs = verdicts registry entries := by
  have h : Judged registry = fun e v => read registry e = v := by
    funext e v
    exact propext judged_iff
  rw [h, verdicts, eq_comm]
  constructor
  · intro hf
    induction hf with
    | nil => rfl
    | cons he _ ih => rw [List.map_cons, he, ih]
  · rintro rfl
    rw [List.forall₂_map_right_iff, List.forall₂_same]
    exact fun _ _ => rfl

end Read

end Entry

/-! ### Which trees are filter documents -/

/-- The tree is no filter document: its root is not an object, or lacks a name or the filters, or
has filters that are not a list. -/
def Value.LacksFilters (document : Value) : Prop :=
  (∀ members, document ≠ .obj members) ∨ ∃ members, document = .obj members ∧
    (members.lookup ("name" : Text) = none ∨ members.lookup ("filters" : Text) = none ∨
      ∃ v, members.lookup ("filters" : Text) = some v ∧ ∀ entries, v ≠ .arr entries)

lemma Value.not_lacksFilters_of_isFilter {document name : Value} {entries : List Value}
    (h : document.IsFilter name entries) : ¬ document.LacksFilters := by
  obtain ⟨members, rfl, hn, hf⟩ := h
  rintro (h | ⟨members', h, hn' | hf' | ⟨v, hv, harr⟩⟩)
  · exact h members rfl
  · cases h
    rw [hn] at hn'
    cases hn'
  · cases h
    rw [hf] at hf'
    cases hf'
  · cases h
    rw [hf] at hv
    cases hv
    exact harr entries rfl

lemma Value.lacksFilters_or_isFilter (document : Value) :
    document.LacksFilters ∨ ∃ name entries, document.IsFilter name entries := by
  cases document with
  | obj members =>
    cases hn : members.lookup ("name" : Text) with
    | none => exact Or.inl (Or.inr ⟨members, rfl, Or.inl hn⟩)
    | some name =>
      cases hf : members.lookup ("filters" : Text) with
      | none => exact Or.inl (Or.inr ⟨members, rfl, Or.inr (Or.inl hf)⟩)
      | some filters =>
        by_cases harr : ∃ entries, filters = .arr entries
        · obtain ⟨entries, rfl⟩ := harr
          exact Or.inr ⟨name, entries, members, rfl, hn, hf⟩
        · exact Or.inl (Or.inr ⟨members, rfl, Or.inr (Or.inr ⟨filters, hf,
            fun entries h => harr ⟨entries, h⟩⟩)⟩)
  | _ => exact Or.inl (Or.inl nofun)

namespace RuleSet

open Verdict

/-- A tree that lacks a name or filters gives nothing, whatever the mode, the registry and the
sink. -/
lemma ofValue_of_lacksFilters {document : Value} (h : document.LacksFilters) :
    ∃ event : Event, ∀ {σ : Type} (skipInvalid : Bool) (registry : Registry) (sink : Sink σ)
      (s : σ), ofValue skipInvalid registry sink document s = ⟨.ok none, s, [event]⟩ :=
  ofValue_of_not_isFilter document fun _ _ hd => Value.not_lacksFilters_of_isFilter hd h

/-- **Reading follows the grammar.** There is no set exactly when the tree is no filter document.
Every other tree has a list of entries with one list of verdicts. In lenient reading these are the
rules of the set and the reports to the sink; strict reading gives the same set if there is no
fault, and otherwise the error of the first. -/
theorem ofValue_grammar {σ : Type} (skipInvalid : Bool) (registry : Registry) (sink : Sink σ)
    (document : Value) (s : σ) :
    let reading := ofValue skipInvalid registry sink document s
    (reading.result = .ok none ↔ document.LacksFilters) ∧
      (document.LacksFilters ∨ ∃ name entries vs, document.IsFilter name entries ∧
        (∀ ws, List.Forall₂ (Entry.Judged registry) entries ws ↔ ws = vs) ∧
        match skipInvalid, faults 0 vs with
        | true, ds => reading.result = .ok (some ⟨nameOf name, kept vs⟩) ∧
            reading.sink = ds.foldl sink.report s
        | false, [] => reading.result = .ok (some ⟨nameOf name, kept vs⟩) ∧ reading.sink = s
        | false, d :: _ => reading.result = .error d.toError ∧ reading.sink = s) := by
  intro reading
  rcases document.lacksFilters_or_isFilter with h | ⟨name, entries, h⟩
  · refine ⟨⟨fun _ => h, fun _ => ?_⟩, Or.inl h⟩
    obtain ⟨event, he⟩ := ofValue_of_not_isFilter document
      fun name entries hd => Value.not_lacksFilters_of_isFilter hd h
    simp only [reading, he]
  · have hl := ofValue_lenient registry sink h s
    have hs := ofValue_strict registry sink h s
    refine ⟨⟨fun hr => ?_, fun hd => absurd hd (Value.not_lacksFilters_of_isFilter h)⟩,
      Or.inr ⟨name, entries, _, h, fun ws => Entry.forall₂_judged_iff, ?_⟩⟩
    · cases skipInvalid with
      | true => simp [reading, hl] at hr
      | false =>
        simp only [reading, hs] at hr
        split at hr <;> cases hr
    · cases skipInvalid with
      | true => simp only [reading, hl, and_self]
      | false =>
        simp only [reading, hs]
        cases faults 0 (Entry.verdicts registry entries) <;> exact ⟨rfl, rfl⟩

end RuleSet

end TextSieve
