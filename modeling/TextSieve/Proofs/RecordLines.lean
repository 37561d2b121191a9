import TextSieve.Output.Records
import TextSieve.Proofs.JsonRoundTrip

/-!
Outputs for programs as lists of records. A record is a list of fields whose values have no parts.
What is written of records determines them: an output is the list of at most one list of records,
and the outputs of a check and of a validation are the lists of theirs.
-/

namespace TextSieve

namespace Json

/-! ### Values without parts -/

/-- The value has no parts: it is null, a truth value, an integer, or a text. -/
inductive Simple : Value → Prop
  | null : Simple .null
  | bool {b : Bool} : Simple (.bool b)
  | int {i : Int} : Simple (.int i)
  | str {t : Text} : Simple (.str t)

lemma writeString_append_inj {t u r s : Text} (h : writeString t ++ r = writeString u ++ s) :
    t = u ∧ r = s := by
  have h : t.flatMap writeChar ++ '"' :: r = u.flatMap writeChar ++ '"' :: s := by
    simpa [writeString] using h
  -- both are read with fuel for the two of them
  have htu : t.length < t.length + u.length + 1 := by omega
  have hut : u.length < t.length + u.length + 1 := by omega
  have ht := readString_writeString htu r
  rw [h, readString_writeString hut s] at ht
  obtain ⟨rfl, rfl⟩ := Prod.mk.inj (Except.ok.inj ht)
  exact ⟨rfl, rfl⟩

lemma takeWhile_isDigit_ofNat (n : ℕ) {s : Text} (hs : Closed s) :
    (Text.ofNat n ++ s).takeWhile Char.isDigit = Text.ofNat n := by
  have hd : ∀ c ∈ Text.ofNat n, c.isDigit = true := fun c hc =>
    Nat.isDigit_of_mem_toDigits (by decide) (by decide) hc
  rw [List.takeWhile_append_of_pos hd]
  cases s with
  | nil => simp
  | cons c t =>
    have hc : ¬ c.isDigit = true := by simp [not_isDigit_of_closed hs]
    rw [List.takeWhile_cons_of_neg hc, List.append_nil]

lemma ofNat_append_inj {m n : ℕ} {s t : Text} (hs : Closed s) (ht : Closed t)
    (h : Text.ofNat m ++ s = Text.ofNat n ++ t) : m = n ∧ s = t := by
  have hd : Text.ofNat m = Text.ofNat n := by
    rw [← takeWhile_isDigit_ofNat m hs, h, takeWhile_isDigit_ofNat n ht]
  have hmn : m = n := by
    calc m = Nat.ofDigitChars 10 (Text.ofNat m) 0 := Nat.ofDigitChars_ten_toDigits.symm
      _ = Nat.ofDigitChars 10 (Text.ofNat n) 0 := by rw [hd]
      _ = n := Nat.ofDigitChars_ten_toDigits
  subst hmn
  exact ⟨rfl, List.append_cancel_left h⟩

lemma minus_cons_ne_ofNat (n : ℕ) (s t : Text) : '-' :: s ≠ Text.ofNat n ++ t := by
  obtain ⟨c, u, hn, hc⟩ := ofNat_eq_cons n
  rw [hn]
  intro h
  obtain ⟨rfl, -⟩ := List.cons.inj h
  exact absurd hc (by decide)

lemma writeInt_append_inj {i j : Int} {s t : Text} (hs : Closed s) (ht : Closed t)
    (h : writeInt i ++ s = writeInt j ++ t) : i = j ∧ s = t := by
  cases i with
  | ofNat m =>
    cases j with
    | ofNat n =>
      obtain ⟨rfl, rfl⟩ := ofNat_append_inj hs ht h
      exact ⟨rfl, rfl⟩
    | negSucc n => exact absurd h.symm (minus_cons_ne_ofNat m _ _)
  | negSucc m =>
    cases j with
    | ofNat n => exact absurd h (minus_cons_ne_ofNat n _ _)
    | negSucc n =>
      obtain ⟨hmn, rfl⟩ := ofNat_append_inj hs ht (List.cons.inj h).2
      obtain rfl := Nat.succ.inj hmn
      exact ⟨rfl, rfl⟩

/-- The first character tells null from truth values, texts, and integers. -/
def sortOf (c : Char) : ℕ :=
  if c = 'n' then 0 else if c = 't' ∨ c = 'f' then 1 else if c = '"' then 2 else 3

/-- The sort of a value without parts, as its first character tells it. -/
def sort : Value → ℕ
  | .null => 0
  | .bool _ => 1
  | .str _ => 2
  | _ => 3

lemma sortOf_of_isDigit {c : Char} (h : c.isDigit = true) : sortOf c = 3 := by
  have hne : ∀ d : Char, d.isDigit = false → c ≠ d := by
    rintro d hd rfl
    rw [h] at hd
    cases hd
  unfold sortOf
  rw [if_neg (hne 'n' rfl), if_neg (not_or.2 ⟨hne 't' rfl, hne 'f' rfl⟩), if_neg (hne '"' rfl)]

lemma Simple.write_eq_cons {v : Value} (h : Simple v) :
    ∃ c t, write v = c :: t ∧ sortOf c = sort v := by
  cases h with
  | null => exact ⟨'n', _, rfl, rfl⟩
  | @bool b => cases b <;> exact ⟨_, _, rfl, rfl⟩
  | @int i =>
    cases i with
    | ofNat n =>
      obtain ⟨c, t, hn, hc⟩ := ofNat_eq_cons n
      exact ⟨c, t, hn, sortOf_of_isDigit hc⟩
    | negSucc n => exact ⟨'-', _, rfl, rfl⟩
  | str => exact ⟨'"', _, rfl, rfl⟩

lemma Simple.sort_eq {v w : Value} (hv : Simple v) (hw : Simple w) {s t : Text}
    (h : write v ++ s = write w ++ t) : sort v = sort w := by
  obtain ⟨c, u, hc, hcv⟩ := hv.write_eq_cons
  obtain ⟨d, x, hd, hdw⟩ := hw.write_eq_cons
  rw [hc, hd] at h
  rw [← hcv, ← hdw, (List.cons.inj h).1]

/-- What is written of a value without parts determines the value and where it ends. -/
lemma Simple.write_append_inj {v w : Value} (hv : Simple v) (hw : Simple w) {s t : Text}
    (hs : Closed s) (ht : Closed t) (h : write v ++ s = write w ++ t) : v = w ∧ s = t := by
  have hsort := hv.sort_eq hw h
  cases hv with
  | null =>
    cases hw with
    | null => exact ⟨rfl, List.append_cancel_left h⟩
    | _ => cases hsort
  | @bool b =>
    cases hw with
    | @bool c =>
      change Text.ofBool b ++ s = Text.ofBool c ++ t at h
      cases b <;> cases c <;> simp_all [Text.ofBool]
    | _ => cases hsort
  | int =>
    cases hw with
    | int =>
      obtain ⟨rfl, rfl⟩ := writeInt_append_inj hs ht h
      exact ⟨rfl, rfl⟩
    | _ => cases hsort
  | str =>
    cases hw with
    | str =>
      obtain ⟨rfl, rfl⟩ := writeString_append_inj h
      exact ⟨rfl, rfl⟩
    | _ => cases hsort

/-! ### Objects of such values -/

section Members

variable {ms ns : List (Text × Value)}

lemma writeMember_append_inj {m n : Text × Value} (hm : Simple m.2) (hn : Simple n.2)
    {s t : Text} (hs : Closed s) (ht : Closed t)
    (h : writeMember m ++ s = writeMember n ++ t) : m = n ∧ s = t := by
  unfold writeMember at h
  rw [List.append_assoc, List.append_assoc] at h
  obtain ⟨hkey, h⟩ := writeString_append_inj h
  obtain ⟨hvalue, h⟩ := hm.write_append_inj hn hs ht (List.cons.inj h).2
  exact ⟨Prod.ext hkey hvalue, h⟩

lemma membersBehind_append_inj (hm : ∀ m ∈ ms, Simple m.2) (hn : ∀ n ∈ ns, Simple n.2)
    {s t : Text} (h : membersBehind ms ++ '}' :: s = membersBehind ns ++ '}' :: t) :
    ms = ns ∧ s = t := by
  induction ms generalizing ns with
  | nil =>
    cases ns with
    | nil => exact ⟨rfl, (List.cons.inj h).2⟩
    | cons n ns => exact absurd (List.cons.inj h).1 (by decide)
  | cons m ms ih =>
    cases ns with
    | nil => exact absurd (List.cons.inj h).1 (by decide)
    | cons n ns =>
      have h : writeMember m ++ (membersBehind ms ++ '}' :: s) =
          writeMember n ++ (membersBehind ns ++ '}' :: t) := by
        simpa [membersBehind] using h
      obtain ⟨rfl, hrest⟩ := writeMember_append_inj (hm m List.mem_cons_self)
        (hn n List.mem_cons_self) (closed_membersBehind ms s) (closed_membersBehind ns t) h
      obtain ⟨rfl, rfl⟩ := ih (fun k hk => hm k (List.mem_cons_of_mem _ hk))
        (fun k hk => hn k (List.mem_cons_of_mem _ hk)) hrest
      exact ⟨rfl, rfl⟩

/-- What is written of an object of values without parts determines it and where it ends. -/
lemma write_obj_append_inj (hm : ∀ m ∈ ms, Simple m.2) (hn : ∀ n ∈ ns, Simple n.2)
    {s t : Text} (h : write (.obj ms) ++ s = write (.obj ns) ++ t) : ms = ns ∧ s = t := by
  have hw : ∀ (ks : List (Text × Value)) (u : Text),
      write (.obj ks) ++ u = '{' :: (writeMembers ks ++ '}' :: u) := by
    intro ks u
    simp [write]
  rw [hw, hw] at h
  have h := (List.cons.inj h).2
  cases ms with
  | nil =>
    cases ns with
    | nil => exact ⟨rfl, (List.cons.inj h).2⟩
    | cons n ns =>
      rw [writeMembers_cons] at h
      exact absurd (List.cons.inj h).1 (by decide)
  | cons m ms =>
    cases ns with
    | nil =>
      rw [writeMembers_cons] at h
      exact absurd (List.cons.inj h).1 (by decide)
    | cons n ns =>
      -- with a comma in front both lists are read alike
      refine membersBehind_append_inj hm hn ?_
      rw [writeMembers_cons, writeMembers_cons] at h
      exact congrArg (',' :: ·) h

end Members

end Json

/-! ### Lists of records -/

/-- The fields of a record, in order. -/
abbrev Record := List (Text × Value)

namespace Records

/-- The text that lists records, one on each line. -/
def print (records : List Record) : Text :=
  records.flatMap fun fields => Text.line (Json.write (.obj fields))

/-- The output is the list of the records, whose fields have values without parts. -/
def Lists (output : Text) (records : List Record) : Prop :=
  (∀ fields ∈ records, ∀ m ∈ fields, Json.Simple m.2) ∧ output = print records

lemma print_cons (fields : Record) (records : List Record) :
    print (fields :: records) = Json.write (.obj fields) ++ '\n' :: print records := by
  simp [print, Text.line]

lemma print_singleton (fields : Record) : print [fields] = Text.line (Json.write (.obj fields)) :=
  List.flatMap_singleton ..

lemma print_append (rs ss : List Record) : print (rs ++ ss) = print rs ++ print ss :=
  List.flatMap_append

/-- **An output lists only one list of records.** -/
theorem Lists.unique {output : Text} {rs ss : List Record} (hr : Lists output rs)
    (hs : Lists output ss) : rs = ss := by
  obtain ⟨hr, rfl⟩ := hr
  obtain ⟨hs, h⟩ := hs
  induction rs generalizing ss with
  | nil =>
    cases ss with
    | nil => rfl
    | cons s ss =>
      rw [print_cons] at h
      exact absurd h.symm (List.append_ne_nil_of_right_ne_nil _ (List.cons_ne_nil _ _))
  | cons r rs ih =>
    cases ss with
    | nil =>
      rw [print_cons] at h
      exact absurd h (List.append_ne_nil_of_right_ne_nil _ (List.cons_ne_nil _ _))
    | cons s ss =>
      rw [print_cons, print_cons] at h
      obtain ⟨rfl, hrest⟩ := Json.write_obj_append_inj (hr r List.mem_cons_self)
        (hs s List.mem_cons_self) h
      rw [ih (fun k hk => hr k (List.mem_cons_of_mem _ hk))
        (fun k hk => hs k (List.mem_cons_of_mem _ hk)) (List.cons.inj hrest).2]

lemma Lists.iff_eq {output : Text} {rs ss : List Record} (h : Lists output rs) :
    Lists output ss ↔ ss = rs :=
  ⟨fun h' => h'.unique h, fun h' => h' ▸ h⟩

/-! ### The records of a check -/

/-- The fields of the record of an outcome. -/
def outcomeFields (o : Outcome) : Record :=
  [("type", .str "match"), ("input", .str o.input), ("matched", .bool o.matched),
    ("rule", (o.rule.map count).getD .null)]

/-- The fields of the summary of a check. -/
def checkSummary (name : Text) (os : List Outcome) : Record :=
  [("type", .str "summary"), ("filter", .str name), ("inputs", count os.length),
    ("matched", count (os.countP (·.matched)))]

lemma simple_outcomeFields (o : Outcome) : ∀ m ∈ outcomeFields o, Json.Simple m.2 := by
  simp only [outcomeFields, List.forall_mem_cons]
  refine ⟨.str, .str, .bool, ?_, nofun⟩
  cases o.rule with
  | none => exact .null
  | some r => exact .int

lemma simple_checkSummary (name : Text) (os : List Outcome) :
    ∀ m ∈ checkSummary name os, Json.Simple m.2 := by
  simp only [checkSummary, List.forall_mem_cons]
  exact ⟨.str, .str, .int, .int, nofun⟩

/-- The output of a check lists a record for each outcome, and a summary. -/
theorem lists_outcomes (name : Text) (os : List Outcome) :
    Lists (outcomes name os) (os.map outcomeFields ++ [checkSummary name os]) := by
  constructor
  · intro fields hf
    rcases List.mem_append.1 hf with hf | hf
    · obtain ⟨o, -, rfl⟩ := List.mem_map.1 hf
      exact simple_outcomeFields o
    · rw [List.mem_singleton.1 hf]
      exact simple_checkSummary name os
  · rw [print_append, print_singleton, print, List.flatMap_map]
    rfl

/-! ### The records of a validation -/

/-- The fields of the record of a rule at a position. -/
def ruleFields (index : ℕ) (r : Rule) : Record :=
  [("type", .str "rule"), ("index", count index), ("method", .str r.method),
    ("pattern", .str r.pattern), ("case_sensitive", .bool r.caseSensitive)]

/-- The fields of the record of an entry that was left out. -/
def diagnosticFields (d : Diagnostic) : Record :=
  [("type", .str "diagnostic"), ("index", count d.index), ("kind", .str d.kind.name),
    ("message", .str d.message)]

/-- The fields of the summary of a validation. -/
def listingSummary (s : RuleSet) (ds : List Diagnostic) : Record :=
  [("type", .str "summary"), ("filter", .str s.name), ("rules", count s.size),
    ("skipped", count ds.length)]

/-- The records of the rules of a set, of the entries that were left out, and the summary. -/
def listingRecords (s : RuleSet) (ds : List Diagnostic) : List Record :=
  s.rules.zipIdx.map (fun p => ruleFields p.2 p.1) ++ ds.map diagnosticFields ++
    [listingSummary s ds]

lemma simple_ruleFields (index : ℕ) (r : Rule) : ∀ m ∈ ruleFields index r, Json.Simple m.2 := by
  simp only [ruleFields, List.forall_mem_cons]
  exact ⟨.str, .int, .str, .str, .bool, nofun⟩

lemma simple_diagnosticFields (d : Diagnostic) : ∀ m ∈ diagnosticFields d, Json.Simple m.2 := by
  simp only [diagnosticFields, List.forall_mem_cons]
  exact ⟨.str, .int, .str, .str, nofun⟩

lemma simple_listingSummary (s : RuleSet) (ds : List Diagnostic) :
    ∀ m ∈ listingSummary s ds, Json.Simple m.2 := by
  simp only [listingSummary, List.forall_mem_cons]
  exact ⟨.str, .str, .int, .int, nofun⟩

/-- What holds of the records of rules, of the entries that were left out, and of the summary,
holds of all records of a validation. -/
lemma forall_mem_listingRecords {s : RuleSet} {ds : List Diagnostic} {P : Record → Prop}
    (rules : ∀ k r, s.rules[k]? = some r → P (ruleFields k r))
    (diagnostics : ∀ d ∈ ds, P (diagnosticFields d)) (summary : P (listingSummary s ds)) :
    ∀ fields ∈ listingRecords s ds, P fields := by
  intro fields hf
  unfold listingRecords at hf
  rw [List.mem_append, List.mem_append, List.mem_singleton] at hf
  rcases hf with (hf | hf) | rfl
  · obtain ⟨⟨r, k⟩, hp, rfl⟩ := List.mem_map.1 hf
    exact rules k r (List.mem_zipIdx_iff_getElem?.1 hp)
  · obtain ⟨d, hd, rfl⟩ := List.mem_map.1 hf
    exact diagnostics d hd
  · exact summary

lemma rules_eq_print (index : ℕ) (rs : List Rule) :
    rules index rs = print ((rs.zipIdx index).map fun p => ruleFields p.2 p.1) := by
  induction rs generalizing index with
  | nil => rfl
  | cons r rs ih =>
    rw [rules, ih, List.zipIdx_cons, List.map_cons]
    rfl

/-- The output of a validation lists a record for each rule and for each entry that was left out,
and a summary. -/
theorem lists_listing (s : RuleSet) (ds : List Diagnostic) :
    Lists (listing s ds) (listingRecords s ds) := by
  constructor
  · exact forall_mem_listingRecords (fun k r _ => simple_ruleFields k r)
      (fun d _ => simple_diagnosticFields d) (simple_listingSummary s ds)
  · rw [listingRecords, print_append, print_append, print_singleton, ← rules_eq_print, print,
      List.flatMap_map]
    rfl

end Records

end TextSieve
