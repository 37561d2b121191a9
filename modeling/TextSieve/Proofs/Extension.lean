import TextSieve.Proofs.Recovery
import TextSieve.Proofs.Registries

/-!
What a registration changes for documents. An entry that does not name the method is judged as
before, but for one thing: if its own method is unknown, the list of the known ones that is reported
with it is that of the registry. So a document without entries that name the method gives the same
set or fails at the same entry, and the same entries are reported.
-/

namespace TextSieve

open Verdict

/-! ### Documents that do not name a method -/

/-- The entry is an object that names the method. -/
def Entry.Names (entry : Value) (method : Text) : Prop :=
  ∃ members, entry = .obj members ∧ members.lookup ("method" : Text) = some (.str method)

/-- No entry of the document names the method. -/
def Value.NeverNames (document : Value) (method : Text) : Prop :=
  ∀ name entries, document.IsFilter name entries → ∀ entry ∈ entries, ¬ Entry.Names entry method

/-- The entry names a text and a method that is not registered. -/
def Entry.AsksUnknown (registry : Registry) (entry : Value) (method : Text) : Prop :=
  ∃ members text, entry = .obj members ∧ members.lookup ("text" : Text) = some text ∧
    members.lookup ("method" : Text) = some (.str method) ∧ method ∉ registry.methods

/-- What is said of one entry under two registries: each gives its own methods if that of the
entry is unknown, and all else is the same. -/
inductive Entry.Restated (r r' : Registry) (entry : Value) :
    DiagnosticKind → DiagnosticKind → Prop
  | unknown {method : Text} (asks : AsksUnknown r entry method) :
      Restated r r' entry (.unknownMethod method r.methods) (.unknownMethod method r'.methods)
  | same {kind : DiagnosticKind} (known : ∀ method, ¬ AsksUnknown r entry method) :
      Restated r r' entry kind kind

/-! ### One entry -/

namespace Entry

section Register

variable {registry : Registry} {method : Text} {c : Constructor} {entry : Value}

lemma Judged.register {v : Verdict} (h : Judged registry entry v)
    (hnames : ¬ Names entry method) (hknown : ∀ m, ¬ AsksUnknown registry entry m) :
    Judged (registry.register method c) entry v := by
  have hne : ∀ {members m}, entry = .obj members →
      members.lookup ("method" : Text) = some (.str m) → m ≠ method := by
    rintro members m he hm rfl
    exact hnames ⟨members, he, hm⟩
  have hmem : ∀ {m}, m ∈ registry.methods → m ∈ (registry.register method c).methods := by
    intro m hm
    rw [Registry.mem_methods] at hm ⊢
    rw [Registry.find?_register]
    split_ifs
    · exact ⟨c, rfl⟩
    · exact hm
  cases h with
  | notAMapping shape => exact .notAMapping shape
  | missing lacks => exact .missing lacks
  | methodType hasText hasMethod type => exact .methodType hasText hasMethod type
  | unknownMethod hasText hasMethod unknown =>
    exact absurd ⟨_, _, rfl, hasText, hasMethod, unknown⟩ (hknown _)
  | caseType hasText hasMethod known hasFlag notNull type =>
    exact .caseType hasText hasMethod (hmem known) hasFlag notNull type
  | textType hasText hasMethod known flag type =>
    exact .textType hasText hasMethod (hmem known) flag type
  | built hasText hasMethod known flag =>
    refine .built hasText hasMethod ?_ flag
    rw [Registry.find?_register, if_neg (hne rfl hasMethod), known]

lemma AsksUnknown.register {m : Text} (h : AsksUnknown registry entry m)
    (hnames : ¬ Names entry method) : AsksUnknown (registry.register method c) entry m := by
  obtain ⟨members, text, rfl, ht, hm, hunknown⟩ := h
  refine ⟨members, text, rfl, ht, hm, ?_⟩
  have hne : m ≠ method := by
    rintro rfl
    exact hnames ⟨members, rfl, hm⟩
  rw [Registry.mem_methods] at hunknown ⊢
  rwa [Registry.find?_register, if_neg hne]

lemma AsksUnknown.read_eq {m : Text} (h : AsksUnknown registry entry m) :
    read registry entry = .error (.unknownMethod m registry.methods) := by
  obtain ⟨members, text, rfl, ht, hm, hunknown⟩ := h
  exact (Judged.unknownMethod ht hm hunknown).read_eq

/-- **An entry that does not name the method** is the same rule under both registries, or is at
fault under both. -/
lemma read_register (registry : Registry) (c : Constructor) (hnames : ¬ Names entry method) :
    (∃ r, read registry entry = .ok r ∧ read (registry.register method c) entry = .ok r) ∨
      ∃ k k', read registry entry = .error k ∧
        read (registry.register method c) entry = .error k' ∧
        Restated registry (registry.register method c) entry k k' := by
  by_cases hunknown : ∃ m, AsksUnknown registry entry m
  · obtain ⟨m, hm⟩ := hunknown
    exact Or.inr ⟨_, _, hm.read_eq, (hm.register hnames).read_eq, .unknown hm⟩
  · have hknown : ∀ m, ¬ AsksUnknown registry entry m := fun m hm => hunknown ⟨m, hm⟩
    obtain ⟨v, hv⟩ := exists_judged registry entry
    have hread := hv.read_eq
    have hread' : read (registry.register method c) entry = v :=
      (hv.register hnames hknown).read_eq
    cases v with
    | ok r => exact Or.inl ⟨r, hread, hread'⟩
    | error k => exact Or.inr ⟨k, k, hread, hread', .same hknown⟩

end Register

end Entry

/-! ### All entries -/

/-- What is reported of entries under two registries, at one and the same entry; the first entry
has the given index. -/
def RestatedAt (r r' : Registry) (i : ℕ) (entries : List Value) (d d' : Diagnostic) : Prop :=
  d'.index = d.index ∧ i ≤ d.index ∧
    ∃ entry, entries[d.index - i]? = some entry ∧ Entry.Restated r r' entry d.kind d'.kind

lemma RestatedAt.cons {r r' : Registry} {i : ℕ} {entries : List Value} {d d' : Diagnostic}
    (h : RestatedAt r r' (i + 1) entries d d') (e : Value) :
    RestatedAt r r' i (e :: entries) d d' := by
  obtain ⟨hindex, hle, entry, hentry, hk⟩ := h
  refine ⟨hindex, by omega, entry, ?_, hk⟩
  rwa [show d.index - i = d.index - (i + 1) + 1 by omega, List.getElem?_cons_succ]

/-- What is reported of a document under two registries, at one and the same entry. -/
def Counterparts (r r' : Registry) (document : Value) (d d' : Diagnostic) : Prop :=
  d'.index = d.index ∧ ∃ name entries entry, document.IsFilter name entries ∧
    entries[d.index]? = some entry ∧ Entry.Restated r r' entry d.kind d'.kind

section Entries

variable (registry : Registry) {method : Text} (c : Constructor)

/-- The rules are the same, and the faults are at the same entries. -/
lemma verdicts_register {entries : List Value} (h : ∀ e ∈ entries, ¬ Entry.Names e method)
    (i : ℕ) :
    kept (Entry.verdicts (registry.register method c) entries) =
        kept (Entry.verdicts registry entries) ∧
      List.Forall₂ (RestatedAt registry (registry.register method c) i entries)
        (faults i (Entry.verdicts registry entries))
        (faults i (Entry.verdicts (registry.register method c) entries)) := by
  induction entries generalizing i with
  | nil => exact ⟨rfl, .nil⟩
  | cons e es ih =>
    obtain ⟨hkept, hfaults⟩ := ih (fun e he => h e (List.mem_cons_of_mem _ he)) (i + 1)
    have hlater := hfaults.imp fun _ _ hd => hd.cons e
    rcases Entry.read_register registry c (h e List.mem_cons_self) with
      ⟨r, hr, hr'⟩ | ⟨k, k', hk, hk', hrestated⟩
    · simp only [Entry.verdicts, List.map_cons, hr, hr', kept, faults] at hkept hlater ⊢
      exact ⟨by rw [hkept], hlater⟩
    · simp only [Entry.verdicts, List.map_cons, hk, hk', kept, faults] at hkept hlater ⊢
      refine ⟨hkept, .cons ⟨rfl, Nat.le_refl i, e, ?_, hrestated⟩ hlater⟩
      rw [Nat.sub_self, List.getElem?_cons_zero]

lemma counterparts_faults {document name : Value} {entries : List Value}
    (hd : document.IsFilter name entries) (h : ∀ e ∈ entries, ¬ Entry.Names e method) :
    List.Forall₂ (Counterparts registry (registry.register method c) document)
      (faults 0 (Entry.verdicts registry entries))
      (faults 0 (Entry.verdicts (registry.register method c) entries)) := by
  refine (verdicts_register registry c h 0).2.imp fun d d' hdd => ?_
  obtain ⟨hindex, -, entry, hentry, hk⟩ := hdd
  exact ⟨hindex, name, entries, entry, hd, hentry, hk⟩

end Entries

/-! ### Documents -/

/-- Two results of reading a document: the same, or errors that come from related diagnostics. -/
inductive SameShape (R : Diagnostic → Diagnostic → Prop) :
    Except FilterError (Option RuleSet) → Except FilterError (Option RuleSet) → Prop
  | read (outcome : Option RuleSet) : SameShape R (.ok outcome) (.ok outcome)
  | failed {d d' : Diagnostic} (h : R d d') : SameShape R (.error d.toError) (.error d'.toError)

namespace RuleSet

/-- **A registration matters only to entries that name the method.** Let no entry of a document
name it. Then under the registry before and after, in either mode, the document is the same rule
set, or none, or fails at the same entry; and the same entries are reported, in the same order.
What is said of an entry is the same as well, unless its own method is unknown: then each registry
lists its own methods. These are the same if the method was registered before, and otherwise it has
found its place among them. -/
theorem ofValue_register (skipInvalid : Bool) (registry : Registry) {method : Text}
    {document : Value} (h : document.NeverNames method) (c : Constructor) :
    let registry' := registry.register method c
    (method ∈ registry.methods → registry'.methods = registry.methods) ∧
    (method ∉ registry.methods → ∃ front back, registry.methods = front ++ back ∧
      registry'.methods = front ++ method :: back ∧
      (∀ m ∈ front, m < method) ∧ ∀ m ∈ back, method < m) ∧
    ∃ ds ds', List.Forall₂ (Counterparts registry registry' document) ds ds' ∧
      ∀ {σ : Type} (sink : Sink σ) (s : σ),
        let before := ofValue skipInvalid registry sink document s
        let after := ofValue skipInvalid registry' sink document s
        SameShape (Counterparts registry registry' document) before.result after.result ∧
          before.sink = ds.foldl sink.report s ∧ after.sink = ds'.foldl sink.report s := by
  intro registry'
  refine ⟨registry.methods_register_of_mem method c,
    registry.methods_register_of_not_mem method c, ?_⟩
  rcases document.lacksFilters_or_isFilter with hlacks | ⟨name, entries, hd⟩
  · obtain ⟨event, he⟩ := ofValue_of_not_isFilter document
      fun name entries hd => Value.not_lacksFilters_of_isFilter hd hlacks
    refine ⟨[], [], .nil, fun sink s => ?_⟩
    simp only [he, List.foldl_nil, and_self, and_true]
    exact .read none
  · have hnames := h name entries hd
    have hkept := (verdicts_register registry c hnames 0).1
    have hfaults := counterparts_faults registry c hd hnames
    cases skipInvalid with
    | true =>
      refine ⟨_, _, hfaults, fun sink s => ?_⟩
      have hbefore := ofValue_lenient registry sink hd s
      have hafter := ofValue_lenient registry' sink hd s
      refine ⟨?_, congrArg Reading.sink hbefore, congrArg Reading.sink hafter⟩
      rw [hbefore, hafter, hkept]
      exact .read _
    | false =>
      refine ⟨[], [], .nil, fun sink s => ?_⟩
      simp only [ofValue_strict _ sink hd]
      rw [hkept]
      generalize faults 0 (Entry.verdicts registry entries) = ds at hfaults
      generalize faults 0 (Entry.verdicts registry' entries) = ds' at hfaults
      cases hfaults with
      | nil => exact ⟨.read _, rfl, rfl⟩
      | cons hdd _ => exact ⟨.failed hdd, rfl, rfl⟩

/-- A document with an unknown method, and with one that its own constructor calls unknown. -/
theorem ofValue_register_odd :
    let registry := Registry.builtin.register "forge" fun p _ => .error (.unknownMethod p ["v"])
    let odd : Constructor := fun p _ => .error (.invalidRegex p "odd")
    let document : Value := .obj [("filters", .arr [
        .obj [("method", .str "even"), ("text", .str "a")],
        .obj [("method", .str "forge"), ("text", .str "b")],
        .obj [("method", .str "contains"), ("text", .str "c")]]),
      ("name", .str "F")]
    document.NeverNames "odd" ∧
      ∃ ds ds', List.Forall₂ (Counterparts registry (registry.register "odd" odd) document) ds ds' ∧
        ds = [⟨0, .unknownMethod "even" ["contains", "endswith", "forge", "regex"]⟩,
          ⟨1, .unknownMethod "b" ["v"]⟩] ∧
        ds' = [⟨0, .unknownMethod "even" ["contains", "endswith", "forge", "odd", "regex"]⟩,
          ⟨1, .unknownMethod "b" ["v"]⟩] := by
  intro registry odd document
  have hnames : document.NeverNames "odd" := by
    rintro name entries ⟨members, hd, -, hf⟩ e he ⟨fields, rfl, hm⟩
    obtain rfl := Value.obj.inj hd
    obtain rfl := Value.arr.inj (Option.some.inj hf)
    simp only [List.mem_cons, Value.obj.injEq, List.not_mem_nil, or_false] at he
    rcases he with rfl | rfl | rfl <;> exact absurd (Value.str.inj (Option.some.inj hm)) (by decide)
  obtain ⟨-, -, ds, ds', hall, hsinks⟩ := ofValue_register true registry hnames odd
  obtain ⟨-, hbefore, hafter⟩ := hsinks .collect []
  rw [Sink.foldl_collect, List.nil_append] at hbefore hafter
  exact ⟨hnames, ds, ds', hall, hbefore.symm.trans rfl, hafter.symm.trans rfl⟩

end RuleSet

end TextSieve
