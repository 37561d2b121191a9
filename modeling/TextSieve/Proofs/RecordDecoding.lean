import Mathlib.Data.List.Forall2
import TextSieve.Filter.Document
import TextSieve.Proofs.JsonCharacters
import TextSieve.Proofs.RecordLines

/-!
Outputs for programs, read back. An output is made of lines, each ended by the only line feed in
it, and each line is the JSON of one record. So nothing is lost: what was said of the inputs, or of
a rule set and the entries left out of it, can be told from the output alone.
-/

namespace TextSieve

/-! ### Lines -/

namespace Text

/-- The text is made of the lines: each is ended by the only line feed in it. -/
def MadeOf (t : Text) (ls : List Text) : Prop := t = ls.flatMap line ∧ ∀ l ∈ ls, '\n' ∉ l

/-- A part of a text ends where the character comes first that is not in it. -/
lemma append_cons_inj {c : Char} {l m s t : Text} (hl : c ∉ l) (hm : c ∉ m)
    (h : l ++ c :: s = m ++ c :: t) : l = m ∧ s = t := by
  induction l generalizing m with
  | nil =>
    cases m with
    | nil => exact ⟨rfl, (List.cons.inj h).2⟩
    | cons d m =>
      obtain ⟨rfl, -⟩ := List.cons.inj h
      exact absurd List.mem_cons_self hm
  | cons d l ih =>
    cases m with
    | nil =>
      obtain ⟨rfl, -⟩ := List.cons.inj h
      exact absurd List.mem_cons_self hl
    | cons e m =>
      obtain ⟨rfl, hrest⟩ := List.cons.inj h
      obtain ⟨rfl, rfl⟩ := ih (fun hc => hl (List.mem_cons_of_mem _ hc))
        (fun hc => hm (List.mem_cons_of_mem _ hc)) hrest
      exact ⟨rfl, rfl⟩

lemma flatMap_line_cons (l : Text) (ls : List Text) :
    (l :: ls).flatMap line = l ++ '\n' :: ls.flatMap line := by
  simp [line]

/-- A text is made of one list of lines only. -/
lemma MadeOf.unique {t : Text} {ls ms : List Text} (hl : MadeOf t ls) (hm : MadeOf t ms) :
    ls = ms := by
  obtain ⟨rfl, hl⟩ := hl
  obtain ⟨h, hm⟩ := hm
  induction ls generalizing ms with
  | nil =>
    cases ms with
    | nil => rfl
    | cons m ms =>
      rw [flatMap_line_cons] at h
      exact absurd h.symm (List.append_ne_nil_of_right_ne_nil _ (List.cons_ne_nil _ _))
  | cons l ls ih =>
    cases ms with
    | nil =>
      rw [flatMap_line_cons] at h
      exact absurd h (List.append_ne_nil_of_right_ne_nil _ (List.cons_ne_nil _ _))
    | cons m ms =>
      rw [flatMap_line_cons, flatMap_line_cons] at h
      obtain ⟨rfl, hrest⟩ := append_cons_inj (hl l List.mem_cons_self)
        (hm m List.mem_cons_self) h
      rw [ih (fun k hk => hl k (List.mem_cons_of_mem _ hk)) hrest
        fun k hk => hm k (List.mem_cons_of_mem _ hk)]

lemma MadeOf.iff_eq {t : Text} {ls ms : List Text} (h : MadeOf t ls) :
    MadeOf t ms ↔ ms = ls :=
  ⟨fun h' => h'.unique h, fun h' => h' ▸ h⟩

end Text

namespace Records

/-! ### Records -/

/-- The JSON of records, a text for each. -/
def jsonOf (records : List Record) : List Text := records.map fun fields => Json.write (.obj fields)

/-- An output that lists records is made of their JSON. -/
lemma Lists.madeOf {output : Text} {records : List Record} (h : Lists output records) :
    Text.MadeOf output (jsonOf records) := by
  obtain ⟨-, rfl⟩ := h
  constructor
  · rw [jsonOf, List.flatMap_map]
    rfl
  · intro l hl
    obtain ⟨fields, -, rfl⟩ := List.mem_map.1 hl
    exact (Json.plain_write (.obj fields)).not_mem (by decide)

/-- The lines are read as the trees, each as one. -/
def Decode (lines : List Text) (trees : List Value) : Prop :=
  List.Forall₂ (fun l v => decode .json l = .ok v) lines trees

/-- Records with values that JSON gives back are decoded to their fields. -/
lemma decode_jsonOf {records : List Record}
    (h : ∀ fields ∈ records, ∀ m ∈ fields, Json.Legible 127 m.2) :
    Decode (jsonOf records) (records.map .ofMembers) := by
  rw [Decode, jsonOf, List.forall₂_map_left_iff, List.forall₂_map_right_iff, List.forall₂_same]
  intro fields hf
  unfold decode
  rw [Json.read_write_obj (h fields hf)]
  rfl

/-- **An output that lists records is made of one line for each**, which is decoded to the fields
of the record. -/
theorem Lists.exists_lines {output : Text} {records : List Record} (h : Lists output records) :
    ∃ lines, (∀ ls, Text.MadeOf output ls ↔ ls = lines) ∧ lines.length = records.length ∧
      ((∀ fields ∈ records, ∀ m ∈ fields, Json.Legible 127 m.2) →
        Decode lines (records.map .ofMembers)) :=
  ⟨jsonOf records, fun _ => h.madeOf.iff_eq, List.length_map .., decode_jsonOf⟩

/-- The number has 64 bits, as positions and counts in memory have. -/
def Word (n : ℕ) : Prop := n < Nat.pow 2 64

instance : DecidablePred Word := fun n => inferInstanceAs (Decidable (n < Nat.pow 2 64))

lemma Word.legible {d n : ℕ} (h : Word n) : Json.Legible d (count n) := by
  unfold Word at h
  exact .int (by omega) (by omega)

/-! ### A check -/

/-- What the record of an outcome says. -/
def outcomeTree (o : Outcome) : Value :=
  .obj [("input", .str o.input), ("matched", .bool o.rule.isSome),
    ("rule", o.rule.elim .null fun k => .int k), ("type", .str "match")]

/-- What the summary of a check says. -/
def checkSummaryTree (name : Text) (os : List Outcome) : Value :=
  .obj [("filter", .str name), ("inputs", .int os.length),
    ("matched", .int (os.countP (·.rule.isSome))), ("type", .str "summary")]

lemma ofMembers_outcomeFields (o : Outcome) : .ofMembers (outcomeFields o) = outcomeTree o := by
  cases h : o.rule with
  | none =>
    simp only [outcomeFields, outcomeTree, Outcome.matched, h]
    rfl
  | some r =>
    simp only [outcomeFields, outcomeTree, Outcome.matched, h]
    rfl

lemma ofMembers_checkSummary (name : Text) (os : List Outcome) :
    .ofMembers (checkSummary name os) = checkSummaryTree name os :=
  rfl

lemma legible_outcomeFields {d : ℕ} {o : Outcome} (h : ∀ r, o.rule = some r → Word r) :
    ∀ m ∈ outcomeFields o, Json.Legible d m.2 := by
  simp only [outcomeFields, List.forall_mem_cons]
  refine ⟨.str, .str, .bool, ?_, List.forall_mem_nil _⟩
  cases hr : o.rule with
  | none => exact .null
  | some r => exact (h r hr).legible

lemma legible_checkSummary {d : ℕ} {os : List Outcome} (h : Word os.length) (name : Text) :
    ∀ m ∈ checkSummary name os, Json.Legible d m.2 := by
  have hle : os.countP (·.matched) ≤ os.length := List.countP_le_length
  have hcount : Word (os.countP (·.matched)) := Nat.lt_of_le_of_lt hle h
  simp only [checkSummary, List.forall_mem_cons]
  exact ⟨.str, .str, h.legible, hcount.legible, List.forall_mem_nil _⟩

lemma outcomeFields_injective : Function.Injective outcomeFields := by
  rintro ⟨input, rule⟩ ⟨input', rule'⟩ h
  simp only [outcomeFields, List.cons.injEq, Prod.mk.injEq, Value.str.injEq] at h
  obtain ⟨-, ⟨-, rfl⟩, -, ⟨-, hr⟩, -⟩ := h
  cases rule with
  | none =>
    cases rule' with
    | none => rfl
    | some r' => cases hr
  | some r =>
    cases rule' with
    | none => cases hr
    | some r' =>
      obtain rfl := Int.ofNat.inj (Value.int.inj hr)
      rfl

/-- The output of a check determines the name of the set and the outcomes. -/
lemma outcomes_inj {name name' : Text} {os os' : List Outcome}
    (h : outcomes name' os' = outcomes name os) : name' = name ∧ os' = os := by
  have hrecords : os'.map outcomeFields ++ [checkSummary name' os'] =
      os.map outcomeFields ++ [checkSummary name os] :=
    (h ▸ lists_outcomes name' os').unique (lists_outcomes name os)
  obtain ⟨hos, hsummary⟩ := List.append_inj' hrecords rfl
  have hname : checkSummary name' os' = checkSummary name os := (List.cons.inj hsummary).1
  simp only [checkSummary, List.cons.injEq, Prod.mk.injEq, Value.str.injEq] at hname
  exact ⟨hname.2.1.2, outcomeFields_injective.list_map hos⟩

/-- **The output of a check loses nothing.** It is made of one line for each outcome, in order, and
one for the summary. The lines are the JSON of what the outcomes and the summary say, as far as
their numbers have 64 bits. And it determines the name of the set and the outcomes. -/
theorem outcomes_lossless (name : Text) (os : List Outcome) :
    (∃ lines, (∀ ls, Text.MadeOf (outcomes name os) ls ↔ ls = lines) ∧
      lines.length = os.length + 1 ∧
      (Word os.length → (∀ o ∈ os, ∀ r, o.rule = some r → Word r) →
        Decode lines (os.map outcomeTree ++ [checkSummaryTree name os]))) ∧
    ∀ (name' : Text) (os' : List Outcome), outcomes name' os' = outcomes name os →
      name' = name ∧ os' = os := by
  obtain ⟨lines, hmade, hlength, hdecode⟩ := (lists_outcomes name os).exists_lines
  refine ⟨⟨lines, hmade, ?_, fun hlen hrules => ?_⟩, fun name' os' h => outcomes_inj h⟩
  · rw [hlength]
    simp
  · have htrees : (os.map outcomeFields ++ [checkSummary name os]).map .ofMembers =
        os.map outcomeTree ++ [checkSummaryTree name os] := by
      simp [ofMembers_outcomeFields, ofMembers_checkSummary]
    rw [← htrees]
    refine hdecode fun fields hf => ?_
    rcases List.mem_append.1 hf with hf | hf
    · obtain ⟨o, ho, rfl⟩ := List.mem_map.1 hf
      exact legible_outcomeFields (hrules o ho)
    · rw [List.mem_singleton.1 hf]
      exact legible_checkSummary hlen name

/-- Inputs that JSON has to escape, and the last of all positions. -/
theorem outcomes_lossless_escaped :
    let os : List Outcome :=
      [⟨"say \"no\"\n\\", some 18446744073709551615⟩, ⟨"\x00\r", none⟩]
    (Word os.length ∧ ∀ o ∈ os, ∀ r, o.rule = some r → Word r) ∧
      ∃ lines, Text.MadeOf (outcomes "F\n" os) lines ∧ lines.length = 3 ∧
        Decode lines
          [.obj [("input", .str "say \"no\"\n\\"), ("matched", .bool true),
              ("rule", .int 18446744073709551615), ("type", .str "match")],
            .obj [("input", .str "\x00\r"), ("matched", .bool false), ("rule", .null),
              ("type", .str "match")],
            .obj [("filter", .str "F\n"), ("inputs", .int 2), ("matched", .int 1),
              ("type", .str "summary")]] := by
  intro os
  have hlen : Word os.length := by decide
  have hrules : ∀ o ∈ os, ∀ r, o.rule = some r → Word r := by
    simp only [os, List.forall_mem_cons]
    refine ⟨?_, nofun, List.forall_mem_nil _⟩
    rintro r ⟨⟩
    decide
  obtain ⟨⟨lines, hmade, hlength, hdecode⟩, -⟩ := outcomes_lossless "F\n" os
  exact ⟨⟨hlen, hrules⟩, lines, (hmade lines).2 rfl, hlength, hdecode hlen hrules⟩

/-! ### A validation -/

/-- What the record of a rule at a position says. -/
def ruleTree (index : ℕ) (r : Rule) : Value :=
  .obj [("case_sensitive", .bool r.caseSensitive), ("index", .int index),
    ("method", .str r.method), ("pattern", .str r.pattern), ("type", .str "rule")]

/-- What the record of an entry that was left out says. -/
def diagnosticTree (d : Diagnostic) : Value :=
  .obj [("index", .int d.index), ("kind", .str d.kind.name), ("message", .str d.message),
    ("type", .str "diagnostic")]

/-- What the summary of a validation says. -/
def listingSummaryTree (s : RuleSet) (ds : List Diagnostic) : Value :=
  .obj [("filter", .str s.name), ("rules", .int s.size), ("skipped", .int ds.length),
    ("type", .str "summary")]

/-- What the records of a validation say, one after the other. -/
def listingTrees (s : RuleSet) (ds : List Diagnostic) : List Value :=
  s.rules.zipIdx.map (fun p => ruleTree p.2 p.1) ++ ds.map diagnosticTree ++
    [listingSummaryTree s ds]

lemma map_ofMembers_listingRecords (s : RuleSet) (ds : List Diagnostic) :
    (listingRecords s ds).map .ofMembers = listingTrees s ds := by
  have hrule : ∀ p : Rule × ℕ, Value.ofMembers (ruleFields p.2 p.1) = ruleTree p.2 p.1 :=
    fun _ => rfl
  have hdiagnostic : ∀ d, Value.ofMembers (diagnosticFields d) = diagnosticTree d := fun _ => rfl
  have hsummary : Value.ofMembers (listingSummary s ds) = listingSummaryTree s ds := rfl
  simp only [listingRecords, listingTrees, List.map_append, List.map_map, List.map_cons,
    List.map_nil, Function.comp_def, hrule, hdiagnostic, hsummary]

/-- The numbers that a validation tells have 64 bits. -/
structure Fits (s : RuleSet) (ds : List Diagnostic) : Prop where
  rules : Word s.size
  diagnostics : Word ds.length
  indices : ∀ d ∈ ds, Word d.index

lemma Fits.legible {s : RuleSet} {ds : List Diagnostic} (h : Fits s ds) {d : ℕ} :
    ∀ fields ∈ listingRecords s ds, ∀ m ∈ fields, Json.Legible d m.2 := by
  refine forall_mem_listingRecords (fun k r hr => ?_) (fun e he => ?_) ?_
  · have hk : k < s.size := (List.getElem?_eq_some_iff.1 hr).1
    have hindex : Word k := Nat.lt_trans hk h.rules
    simp only [ruleFields, List.forall_mem_cons]
    exact ⟨.str, hindex.legible, .str, .str, .bool, List.forall_mem_nil _⟩
  · simp only [diagnosticFields, List.forall_mem_cons]
    exact ⟨.str, (h.indices e he).legible, .str, .str, List.forall_mem_nil _⟩
  · simp only [listingSummary, List.forall_mem_cons]
    exact ⟨.str, .str, h.rules.legible, h.diagnostics.legible, List.forall_mem_nil _⟩

/-- What a rule says of itself. -/
def ruleTraits (r : Rule) : Text × Text × Bool := (r.method, r.pattern, r.caseSensitive)

/-- What is told of an entry that was left out. -/
def diagnosticTraits (d : Diagnostic) : ℕ × Text × Text := (d.index, d.kind.name, d.message)

lemma map_eq_of_map_eq {α β γ : Type} {f : α → β} {g : α → γ} (h : ∀ a b, f a = f b → g a = g b)
    {xs ys : List α} (hf : xs.map f = ys.map f) : xs.map g = ys.map g := by
  induction xs generalizing ys with
  | nil =>
    rw [List.map_nil] at hf
    rw [List.map_eq_nil_iff.1 hf.symm]
  | cons x xs ih =>
    cases ys with
    | nil => cases hf
    | cons y ys =>
      obtain ⟨hxy, hrest⟩ := List.cons.inj hf
      rw [List.map_cons, List.map_cons, h x y hxy, ih hrest]

lemma ruleTraits_of_ruleFields (p q : Rule × ℕ)
    (h : ruleFields p.2 p.1 = ruleFields q.2 q.1) : ruleTraits p.1 = ruleTraits q.1 := by
  simp only [ruleFields, List.cons.injEq, Prod.mk.injEq, Value.str.injEq, Value.bool.injEq] at h
  obtain ⟨-, -, ⟨-, hm⟩, ⟨-, hp⟩, ⟨-, hc⟩, -⟩ := h
  rw [ruleTraits, ruleTraits, hm, hp, hc]

lemma diagnosticTraits_of_diagnosticFields (d e : Diagnostic)
    (h : diagnosticFields d = diagnosticFields e) : diagnosticTraits d = diagnosticTraits e := by
  simp only [diagnosticFields, count, List.cons.injEq, Prod.mk.injEq, Value.str.injEq,
    Value.int.injEq] at h
  obtain ⟨-, ⟨-, hi⟩, ⟨-, hk⟩, ⟨-, hm⟩, -⟩ := h
  rw [diagnosticTraits, diagnosticTraits, Int.ofNat.inj hi, hk, hm]

/-- The output of a validation determines the name of the set, what its rules say of themselves,
and what is told of the entries that were left out. -/
lemma listing_inj {s s' : RuleSet} {ds ds' : List Diagnostic} (h : listing s' ds' = listing s ds) :
    s'.name = s.name ∧ s'.rules.map ruleTraits = s.rules.map ruleTraits ∧
      ds'.map diagnosticTraits = ds.map diagnosticTraits := by
  have hrecords : listingRecords s' ds' = listingRecords s ds :=
    (h ▸ lists_listing s' ds').unique (lists_listing s ds)
  obtain ⟨hparts, hsummary⟩ := List.append_inj' hrecords rfl
  have hsummary : listingSummary s' ds' = listingSummary s ds := (List.cons.inj hsummary).1
  simp only [listingSummary, count, List.cons.injEq, Prod.mk.injEq, Value.str.injEq,
    Value.int.injEq] at hsummary
  obtain ⟨-, ⟨-, hname⟩, ⟨-, hsize⟩, -⟩ := hsummary
  -- the summary says where the rules end
  have hlength : s'.rules.length = s.rules.length := Int.ofNat.inj hsize
  obtain ⟨hrules, hdiagnostics⟩ := List.append_inj hparts (by simp [hlength])
  refine ⟨hname, ?_, map_eq_of_map_eq diagnosticTraits_of_diagnosticFields hdiagnostics⟩
  have htraits := map_eq_of_map_eq (g := fun p => ruleTraits p.1) ruleTraits_of_ruleFields hrules
  have hfst : ∀ rs : List Rule, rs.zipIdx.map (fun p => ruleTraits p.1) = rs.map ruleTraits := by
    intro rs
    calc rs.zipIdx.map (fun p => ruleTraits p.1) = (rs.zipIdx.map Prod.fst).map ruleTraits := by
          rw [List.map_map, Function.comp_def]
      _ = rs.map ruleTraits := by rw [List.zipIdx_map_fst]
  rwa [hfst, hfst] at htraits

/-- **The output of a validation loses nothing.** It is made of one line for each rule, one for each
entry that was left out, and one for the summary, also where patterns, names and messages have line
feeds in them. The lines are the JSON of what the rules, the diagnostics and the summary say, as far
as their numbers have 64 bits. And it determines the name of the set, what its rules say of
themselves, and what is told of the entries. -/
theorem listing_lossless (s : RuleSet) (ds : List Diagnostic) :
    (∃ lines, (∀ ls, Text.MadeOf (listing s ds) ls ↔ ls = lines) ∧
      lines.length = s.size + ds.length + 1 ∧
      (Fits s ds → Decode lines (listingTrees s ds))) ∧
    ∀ (s' : RuleSet) (ds' : List Diagnostic), listing s' ds' = listing s ds →
      s'.name = s.name ∧ s'.rules.map ruleTraits = s.rules.map ruleTraits ∧
        ds'.map diagnosticTraits = ds.map diagnosticTraits := by
  obtain ⟨lines, hmade, hlength, hdecode⟩ := (lists_listing s ds).exists_lines
  refine ⟨⟨lines, hmade, ?_, fun h => ?_⟩, fun s' ds' h => listing_inj h⟩
  · rw [hlength]
    simp [listingRecords, RuleSet.size, Nat.add_assoc]
  · rw [← map_ofMembers_listingRecords]
    exact hdecode h.legible

/-- A name, a pattern and a message of more than one line. -/
theorem listing_lossless_lines :
    let set : RuleSet := ⟨"F\n2", [.contains "a\nb" false, .endsWith "\"\\" true]⟩
    let ds : List Diagnostic := [⟨2, .patternCompile (.invalidRegex "(" "1: (\n   ^\nerror")⟩]
    Fits set ds ∧ ∃ lines, Text.MadeOf (listing set ds) lines ∧ lines.length = 4 ∧
      Decode lines (listingTrees set ds) := by
  intro set ds
  have hfits : Fits set ds := ⟨by decide, by decide, by decide⟩
  obtain ⟨⟨lines, hmade, hlength, hdecode⟩, -⟩ := listing_lossless set ds
  exact ⟨hfits, lines, (hmade lines).2 rfl, hlength, hdecode hfits⟩

end Records

end TextSieve
