import TextSieve.Proofs.Grammar
import TextSieve.Proofs.JsonRoundTrip

/-!
Rule sets as documents. A set that was read with the builtin methods is written as a document
with an entry for each of its rules, and strict reading of the JSON of that document gives the
very same set.
-/

namespace TextSieve

/-! ### The builtin methods -/

/-- A compiled pattern keeps its text. -/
lemma Regex.pattern_of_compile {pattern : Text} {r : Regex} (h : Regex.compile pattern = .ok r) :
    r.pattern = pattern := by
  unfold Regex.compile at h
  split at h
  · cases h
  · split at h <;> cases h
    rfl

/-- A rule of a builtin method tells what it was made from. -/
lemma Method.accessors_of_constructor {m : Method} {pattern : Text} {caseSensitive : Bool}
    {r : Rule} (h : m.constructor pattern caseSensitive = .ok r) :
    r.method = m.name ∧ r.pattern = pattern ∧ r.caseSensitive = caseSensitive := by
  cases m with
  | contains => cases h; exact ⟨rfl, rfl, rfl⟩
  | endsWith => cases h; exact ⟨rfl, rfl, rfl⟩
  | regex =>
    simp only [Method.constructor, Rule.regex] at h
    cases hc : Regex.compile pattern with
    | error e =>
      rw [hc] at h
      cases h
    | ok x =>
      rw [hc] at h
      cases h
      exact ⟨rfl, Regex.pattern_of_compile hc, rfl⟩

lemma Registry.find?_name (m : Method) : Registry.builtin.find? m.name = some m.constructor := by
  cases m <;> rfl

/-- The builtin registry knows nothing but the builtin methods. -/
lemma Registry.eq_of_find?_builtin {method : Text} {c : Constructor}
    (h : Registry.builtin.find? method = some c) :
    ∃ m : Method, method = m.name ∧ c = m.constructor := by
  obtain ⟨l₁, l₂, he, -⟩ := List.lookup_eq_some_iff.1 h
  have hmem : (method, c) ∈ Method.all.map fun m => (m.name, m.constructor) := by
    change (method, c) ∈ Registry.builtin.entries
    rw [he]
    simp
  obtain ⟨m, -, hm⟩ := List.mem_map.1 hmem
  cases hm
  exact ⟨m, rfl, rfl⟩

/-- A rule that was read from an entry is a rule of a builtin method, made from its own pattern
and its own flag. -/
lemma Entry.exists_method_of_read {entry : Value} {r : Rule}
    (h : Entry.read .builtin entry = .ok r) :
    ∃ m : Method, r.method = m.name ∧ m.constructor r.pattern r.caseSensitive = .ok r := by
  generalize hv : (Except.ok r : Verdict) = v at h
  cases Entry.judged_iff.2 h with
  | @built members k t b c hasText hasMethod known flag =>
    obtain ⟨m, rfl, rfl⟩ := Registry.eq_of_find?_builtin known
    cases hc : m.constructor t b with
    | error e =>
      rw [hc] at hv
      cases hv
    | ok r' =>
      rw [hc] at hv
      cases hv
      obtain ⟨hm, hp, hb⟩ := Method.accessors_of_constructor hc
      exact ⟨m, hm, by rw [hp, hb, hc]⟩
  | _ => cases hv

/-! ### The exported document -/

/-- The entry that asks for a rule. -/
def Rule.toEntry (r : Rule) : Value :=
  .ofMembers [("text", .str r.pattern), ("method", .str r.method),
    ("case_sensitive", .bool r.caseSensitive)]

/-- The document that asks for the rules of a set. -/
def RuleSet.toDocument (set : RuleSet) : Value :=
  .ofMembers [("name", .str set.name), ("filters", .arr (set.rules.map Rule.toEntry))]

lemma Rule.toEntry_eq (r : Rule) :
    r.toEntry = .obj [("case_sensitive", .bool r.caseSensitive), ("method", .str r.method),
      ("text", .str r.pattern)] := by
  rfl

lemma RuleSet.isFilter_toDocument (set : RuleSet) :
    set.toDocument.IsFilter (.str set.name) (set.rules.map Rule.toEntry) :=
  ⟨_, rfl, rfl, rfl⟩

/-- Reading the entry of a rule gives the rule. -/
lemma Rule.read_toEntry {r : Rule} {m : Method} (hm : r.method = m.name)
    (hc : m.constructor r.pattern r.caseSensitive = .ok r) :
    Entry.read .builtin r.toEntry = .ok r := by
  have known : Registry.builtin.find? r.method = some m.constructor :=
    hm ▸ Registry.find?_name m
  have h : Entry.Judged .builtin r.toEntry
      ((m.constructor r.pattern r.caseSensitive).mapError .ofRuleError) := by
    rw [Rule.toEntry_eq]
    exact .built rfl rfl known (Or.inr rfl)
  rw [h.read_eq, hc]
  rfl

lemma Rule.legible_toEntry (d : ℕ) (r : Rule) : Json.Legible (d + 2) r.toEntry := by
  refine .ofMembers ?_
  simp only [List.forall_mem_cons]
  exact ⟨.str, .str, .bool, nofun⟩

/-- A filter document can be read back if its entries can. -/
lemma Json.legible_filter (name : Text) {entries : List Value}
    (h : ∀ v ∈ entries, Legible 126 v) :
    Legible maxDepth (.ofMembers [("name", .str name), ("filters", .arr entries)]) := by
  refine .ofMembers (d := 126) ?_
  simp only [List.forall_mem_cons]
  exact ⟨.str, .arr (d := 125) h, nofun⟩

lemma RuleSet.legible_toDocument (set : RuleSet) : Json.Legible Json.maxDepth set.toDocument := by
  refine Json.legible_filter set.name fun v hv => ?_
  obtain ⟨r, -, rfl⟩ := List.mem_map.1 hv
  exact r.legible_toEntry 124

/-- What is written for a legible document is the text of this document. -/
lemma decode_write {document : Value} (h : Json.Legible Json.maxDepth document) :
    decode .json (Json.write document) = .ok document := by
  unfold decode
  rw [Json.read_write h]
  rfl

namespace RuleSet

open Verdict

lemma verdicts_map_toEntry {rules : List Rule}
    (h : ∀ r ∈ rules, Entry.read .builtin r.toEntry = .ok r) :
    Entry.verdicts .builtin (rules.map Rule.toEntry) = rules.map Except.ok := by
  unfold Entry.verdicts
  rw [List.map_map]
  exact List.map_congr_left h

/-- **Export and import.** A set that was read with the builtin methods, in either mode, comes
back from the JSON of its document: strict reading gives the same name and the same rules in the
same order, and so the same verdict on every text. -/
theorem parse_write_toDocument {σ : Type} {skipInvalid : Bool} {sink : Sink σ} {document : Value}
    {s : σ} {set : RuleSet}
    (h : (ofValue skipInvalid .builtin sink document s).result = .ok (some set)) :
    RuleSet.parse (Json.write set.toDocument) false = .ok (some set) := by
  have hread : ∀ r ∈ set.rules, Entry.read .builtin r.toEntry = .ok r := by
    intro r hr
    obtain ⟨name, entries, -, rfl⟩ := eq_kept_of_ofValue h
    obtain ⟨entry, -, he⟩ := List.mem_map.1 (mem_kept.1 hr)
    obtain ⟨m, hm, hc⟩ := Entry.exists_method_of_read he
    exact Rule.read_toEntry hm hc
  have hdecode : decode .json (Json.write set.toDocument) = .ok set.toDocument := by
    unfold decode
    rw [Json.read_write set.legible_toDocument]
    rfl
  have hparse : RuleSet.parse (Json.write set.toDocument) false =
      (ofValue false .builtin .discard set.toDocument ()).result := by
    simp only [RuleSet.parse, ofText, ReadOptions.ofMode, Format.default, hdecode]
  rw [hparse, ofValue_strict .builtin .discard set.isFilter_toDocument,
    verdicts_map_toEntry hread, faults_map_ok, kept_map_ok]
  rfl

/-- A set with a name and patterns that JSON has to escape, read leniently from a document in which
one entry is at fault. -/
theorem parse_write_toDocument_escaped :
    let document : Value := .obj [("filters", .arr [
        .obj [("method", .str "contains"), ("text", .str "say \"no\"\n")], .null,
        .obj [("case_sensitive", .bool true), ("method", .str "endswith"),
          ("text", .str "\\x01")]]),
      ("name", .str "F\t1")]
    let set : RuleSet := ⟨"F\t1", [.contains "say \"no\"\n" false, .endsWith "\\x01" true]⟩
    (ofValue true .builtin .discard document ()).result = .ok (some set) ∧
      RuleSet.parse (Json.write set.toDocument) false = .ok (some set) := by
  intro document set
  have h : (ofValue true .builtin .discard document ()).result = .ok (some set) := rfl
  exact ⟨h, parse_write_toDocument h⟩

end RuleSet

end TextSieve
