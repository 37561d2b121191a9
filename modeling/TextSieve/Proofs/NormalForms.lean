import TextSieve.Proofs.Grammar

/-!
Normal forms of documents. Members under keys that the reader does not look for are left out, and
so is a flag that says what holds without it. A document is read as its normal form is, so two
documents with one normal form cannot be told apart.
-/

namespace TextSieve

/-! ### Members under some keys -/

namespace Keyed

variable {α : Type}

/-- The entries under some keys. -/
def restrict (keys : List Text) (es : List (Text × α)) : List (Text × α) :=
  es.filter fun e => e.1 ∈ keys

lemma lookup_restrict (keys : List Text) (k : Text) (es : List (Text × α)) :
    (restrict keys es).lookup k = if k ∈ keys then es.lookup k else none := by
  induction es with
  | nil => simp [restrict]
  | cons e es ih =>
    obtain ⟨key, v⟩ := e
    unfold restrict at ih ⊢
    rw [List.filter_cons, List.lookup_cons]
    by_cases hk : k = key
    · subst hk
      by_cases h : k ∈ keys <;> simp [h, ih]
    · rw [beq_false_of_ne hk]
      by_cases h : key ∈ keys
      · rw [if_pos (decide_eq_true h), List.lookup_cons, beq_false_of_ne hk, ih]
      · rw [if_neg (by simpa using h), ih]

/-- A lookup among values that have been changed, each in a way that its key decides on. -/
lemma lookup_map (f : Text → α → α) (k : Text) (es : List (Text × α)) :
    (es.map fun e => (e.1, f e.1 e.2)).lookup k = (es.lookup k).map (f k) := by
  induction es with
  | nil => rfl
  | cons e es ih =>
    rw [List.map_cons, List.lookup_cons, List.lookup_cons, ih]
    by_cases hk : k = e.1
    · rw [beq_iff_eq.2 hk, hk]
      rfl
    · rw [beq_false_of_ne hk]

end Keyed

open Keyed

/-! ### Entries -/

namespace Entry

/-- The keys that can matter in an entry. The flag does not if it says what holds without it. -/
def telling (members : List (Text × Value)) : List Text :=
  -- The first member under the key decides for all of them, so that none comes to light behind it.
  match members.lookup ("case_sensitive" : Text) with
  | some .null | some (.bool false) => ["text", "method"]
  | _ => ["text", "method", "case_sensitive"]

/-- The normal form of an entry. -/
def norm : Value → Value
  | .obj members => .obj (restrict (telling members) members)
  | v => v

section Read

variable {registry : Registry} {members members' : List (Text × Value)}

lemma text_mem_telling : ("text" : Text) ∈ telling members := by
  unfold telling
  split <;> exact List.mem_cons_self

lemma method_mem_telling : ("method" : Text) ∈ telling members := by
  unfold telling
  split <;> exact List.mem_cons_of_mem _ List.mem_cons_self

/-- Without the flag, or with it, the normal form says the same of case. -/
lemma caseField_telling :
    caseField (restrict (telling members) members) = caseField members := by
  unfold caseField telling
  rw [lookup_restrict]
  cases members.lookup ("case_sensitive" : Text) with
  | none => rfl
  | some v =>
    cases v with
    | bool b => cases b <;> rfl
    | _ => rfl

/-- Nothing counts in an entry but its text, its method, and what it says of case. -/
lemma read_congr (ht : members'.lookup ("text" : Text) = members.lookup ("text" : Text))
    (hm : members'.lookup ("method" : Text) = members.lookup ("method" : Text))
    (hc : caseField members' = caseField members) :
    read registry (.obj members') = read registry (.obj members) := by
  have hmissing : missing members' = missing members := by
    rw [missing_eq, missing_eq, absent, absent, absent, absent, ht, hm]
  have htext : textField members' "text" = textField members "text" := by
    rw [textField, textField, ht]
  have hmethod : textField members' "method" = textField members "method" := by
    rw [textField, textField, hm]
  unfold read
  simp only [Value.members?, hmissing, htext, hmethod, hc]

/-- **An entry is read as its normal form is.** -/
theorem read_norm (registry : Registry) (entry : Value) :
    read registry (norm entry) = read registry entry := by
  cases entry with
  | obj members =>
    refine read_congr ?_ ?_ caseField_telling
    · rw [lookup_restrict, if_pos text_mem_telling]
    · rw [lookup_restrict, if_pos method_mem_telling]
  | _ => rfl

lemma verdicts_norm (registry : Registry) (entries : List Value) :
    verdicts registry (entries.map norm) = verdicts registry entries := by
  unfold verdicts
  rw [List.map_map]
  exact List.map_congr_left fun e _ => read_norm registry e

end Read

end Entry

/-! ### Documents -/

namespace Value

/-- Entries in their normal forms. What is no list of entries stays as it is. -/
def normEntries : Value → Value
  | .arr entries => .arr (entries.map Entry.norm)
  | v => v

/-- The normal form of what stands under a key of a document. Names stay as they are, also those
that are objects. -/
def normMember (key : Text) (v : Value) : Value :=
  if key = "filters" then normEntries v else v

/-- The normal form of a document. -/
def norm : Value → Value
  | .obj members =>
    .obj ((restrict ["name", "filters"] members).map fun m => (m.1, normMember m.1 m.2))
  | v => v

end Value

namespace RuleSet

section Read

variable {σ : Type} (skipInvalid : Bool) (registry : Registry) (sink : Sink σ)

/-- Entries with the same verdicts are read alike. -/
lemma readEntries_congr {entries entries' : List Value}
    (h : Entry.verdicts registry entries' = Entry.verdicts registry entries) (i : ℕ) (s : σ) :
    readEntries skipInvalid registry sink i entries' s =
      readEntries skipInvalid registry sink i entries s := by
  cases skipInvalid with
  | true => rw [readEntries_lenient, readEntries_lenient, h]
  | false => rw [readEntries_strict, readEntries_strict, h]

/-- **A document is read as its normal form is**: the result, the state of the sink, and the events
are the same. -/
theorem ofValue_norm (document : Value) (s : σ) :
    ofValue skipInvalid registry sink document.norm s =
      ofValue skipInvalid registry sink document s := by
  cases document with
  | obj members =>
    have hname : ((restrict ["name", "filters"] members).map
        fun m => (m.1, Value.normMember m.1 m.2)).lookup ("name" : Text) =
          members.lookup ("name" : Text) := by
      rw [Keyed.lookup_map, lookup_restrict, if_pos (by decide)]
      exact congrFun Option.map_id _
    have hfilters : ((restrict ["name", "filters"] members).map
        fun m => (m.1, Value.normMember m.1 m.2)).lookup ("filters" : Text) =
          (members.lookup ("filters" : Text)).map Value.normEntries := by
      rw [Keyed.lookup_map, lookup_restrict, if_pos (by decide)]
      rfl
    simp only [ofValue, Value.norm, Value.members?, hname, hfilters]
    cases members.lookup ("name" : Text) with
    | none => rfl
    | some name =>
      cases members.lookup ("filters" : Text) with
      | none => rfl
      | some filters =>
        cases filters with
        | arr entries =>
          have hentries := readEntries_congr skipInvalid registry sink
            (Entry.verdicts_norm registry entries) 0 s
          simp only [Option.map_some, Value.normEntries, Value.items?, readNamed, hentries]
        | _ => rfl
  | _ => rfl

end Read

/-- **Documents with one normal form cannot be told apart.** Members under other keys than those of
the grammar do not matter, at the root and in entries, and a flag that is null or false does not
either: reading gives the same result, leaves the sink in the same state, and has the same events,
in both modes and whatever the registry and the sink. -/
theorem indistinguishable_of_norm {σ : Type} (skipInvalid : Bool) (registry : Registry)
    (sink : Sink σ) (s : σ) :
    (∀ document : Value, ofValue skipInvalid registry sink document.norm s =
      ofValue skipInvalid registry sink document s) ∧
    ∀ document document' : Value, document.norm = document'.norm →
      ofValue skipInvalid registry sink document s =
        ofValue skipInvalid registry sink document' s := by
  refine ⟨fun document => ofValue_norm skipInvalid registry sink document s,
    fun document document' h => ?_⟩
  rw [← ofValue_norm, h, ofValue_norm]

/-- The members of a name that is an object stay; those of an entry go with the flag. -/
example :
    (Value.obj [("comment", .null),
      ("filters", .arr [.null, .obj [("case_sensitive", .bool false), ("method", .str "regex"),
        ("note", .str "n"), ("text", .null)]]),
      ("name", .obj [("note", .str "n")])]).norm =
    .obj [("filters", .arr [.null, .obj [("method", .str "regex"), ("text", .null)]]),
      ("name", .obj [("note", .str "n")])] :=
  rfl

end RuleSet

end TextSieve
