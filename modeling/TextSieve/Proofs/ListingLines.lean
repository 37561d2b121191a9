import TextSieve.Output.Readable
import TextSieve.Proofs.Export
import TextSieve.Proofs.QuotedTexts

/-!
The listing of a rule set for people, read back. The first line tells the name and, read from its
end, the number of rules; then each rule has a line, in which the method ends at the first blank and
the pattern is quoted. So the listing determines the rules and, as far as an empty name can be told
from the words for it, the name of the set, whatever lines follow for the entries that were left
out.
-/

namespace TextSieve

namespace Text

/-- The other part of a text begins where the character comes last. -/
lemma append_cons_inj_right {c : Char} {l m s t : Text} (hs : c ∉ s) (ht : c ∉ t)
    (h : l ++ c :: s = m ++ c :: t) : l = m ∧ s = t := by
  have hreverse : s.reverse ++ c :: l.reverse = t.reverse ++ c :: m.reverse := by
    simpa using congrArg List.reverse h
  obtain ⟨hst, hlm⟩ := append_cons_inj (fun hc => hs (List.mem_reverse.1 hc))
    (fun hc => ht (List.mem_reverse.1 hc)) hreverse
  exact ⟨List.reverse_injective hlm, List.reverse_injective hst⟩

/-- Equally many lines at the beginning of one text are equal themselves. -/
lemma MadeOf.append_inj {front front' rest rest' : Text} {ls ms : List Text}
    (hl : MadeOf front ls) (hm : MadeOf front' ms) (hlength : ls.length = ms.length)
    (h : front ++ rest = front' ++ rest') : ls = ms ∧ rest = rest' := by
  induction ls generalizing front front' ms with
  | nil =>
    obtain rfl := List.length_eq_zero_iff.1 hlength.symm
    obtain ⟨rfl, -⟩ := hl
    obtain ⟨rfl, -⟩ := hm
    exact ⟨rfl, h⟩
  | cons l ls ih =>
    cases ms with
    | nil => cases hlength
    | cons m ms =>
      obtain ⟨rfl, hl⟩ := hl
      obtain ⟨rfl, hm⟩ := hm
      obtain ⟨hnl, hls⟩ := List.forall_mem_cons.1 hl
      obtain ⟨hnm, hms⟩ := List.forall_mem_cons.1 hm
      rw [flatMap_line_cons, flatMap_line_cons, List.append_assoc, List.append_assoc] at h
      obtain ⟨rfl, hrest⟩ := append_cons_inj hnl hnm h
      obtain ⟨rfl, rfl⟩ := ih ⟨rfl, hls⟩ ⟨rfl, hms⟩ (Nat.succ.inj hlength) hrest
      exact ⟨rfl, rfl⟩

lemma MadeOf.cons {front : Text} {l : Text} {ls : List Text} (hl : '\n' ∉ l)
    (h : MadeOf front ls) : MadeOf (line l ++ front) (l :: ls) :=
  ⟨congrArg (line l ++ ·) h.1, List.forall_mem_cons.2 ⟨hl, h.2⟩⟩

lemma ofNat_injective : Function.Injective ofNat := by
  intro m n h
  exact (Json.ofNat_append_inj (s := []) (t := []) trivial trivial (by rw [h])).1

end Text

/-- The rules of the set were made by the builtin registry. -/
def RuleSet.IsBuiltin (set : RuleSet) : Prop :=
  ∀ r ∈ set.rules, ∃ method pattern caseSensitive,
    Registry.builtin.build method pattern caseSensitive = .ok r

/-- A rule from the builtin registry calls itself by the name of a builtin method. -/
lemma Registry.exists_method_of_build {method pattern : Text} {caseSensitive : Bool} {r : Rule}
    (h : Registry.builtin.build method pattern caseSensitive = .ok r) :
    ∃ m : Method, r.method = m.name := by
  unfold Registry.build at h
  split at h
  · next c hc =>
    obtain ⟨m, -, rfl⟩ := Registry.eq_of_find?_builtin hc
    exact ⟨m, (Method.accessors_of_constructor h).1⟩
  · cases h

lemma RuleSet.IsBuiltin.exists_method {set : RuleSet} (h : set.IsBuiltin) :
    ∀ r ∈ set.rules, ∃ m : Method, r.method = m.name := by
  intro r hr
  obtain ⟨method, pattern, caseSensitive, hbuild⟩ := h r hr
  exact Registry.exists_method_of_build hbuild

namespace Readable

open Text

/-! ### The lines -/

/-- The line that tells the name of a set and the number of its rules. -/
def headerLine (s : RuleSet) : Text :=
  "Filter: ".toList ++ setName s.name ++ " (".toList ++ Text.ofNat s.size ++ " rules)".toList

/-- The words for whether case counts. -/
def caseWords (caseSensitive : Bool) : Text :=
  (if caseSensitive then " (case-sensitive)" else " (case-insensitive)" : String).toList

/-- The line that tells a rule and its position. -/
def ruleLine (index : ℕ) (r : Rule) : Text :=
  "  [".toList ++ Text.ofNat index ++ "] ".toList ++ r.method ++ " ".toList ++ r.pattern.quoted ++
    caseWords r.caseSensitive

/-- The lines of rules, the first of which has the given position. -/
def ruleLines (index : ℕ) (rs : List Rule) : List Text :=
  (rs.zipIdx index).map fun p => ruleLine p.2 p.1

/-- The lines for a set and its rules. -/
def listingLines (s : RuleSet) : List Text := headerLine s :: ruleLines 0 s.rules

lemma header_eq (s : RuleSet) : header s = line (headerLine s) := rfl

lemma rule_eq (index : ℕ) (r : Rule) : rule index r = line (ruleLine index r) := rfl

lemma length_ruleLines (index : ℕ) (rs : List Rule) : (ruleLines index rs).length = rs.length := by
  simp [ruleLines]

lemma ruleLines_cons (index : ℕ) (r : Rule) (rs : List Rule) :
    ruleLines index (r :: rs) = ruleLine index r :: ruleLines (index + 1) rs := by
  simp [ruleLines, List.zipIdx_cons]

section Rules

variable {r r' : Rule} {m m' : Method}

/-- All that is written around a method is plain, the quoted pattern too. -/
lemma mem_of_mem_ruleLine {index : ℕ} {c : Char} (hc : c.toNat < 0x20)
    (h : c ∈ ruleLine index r) : c ∈ r.method := by
  have hcase : ∀ b, Plain (caseWords b) := by decide
  have hfront : Plain ("  [".toList ++ Text.ofNat index ++ "] ".toList) := by
    simp [plain_ofNat]
  have hback : Plain (" ".toList ++ (r.pattern.quoted ++ caseWords r.caseSensitive)) := by
    simp [plain_quoted, hcase]
  unfold ruleLine at h
  rw [List.append_assoc, List.append_assoc] at h
  exact hfront.mem_between hback hc h

/-- Neither methods nor quoted patterns break a line. -/
lemma newline_not_mem_ruleLine (hm : r.method = m.name) (index : ℕ) : '\n' ∉ ruleLine index r := by
  have hmethod : ∀ m : Method, '\n' ∉ m.name := by
    intro m
    cases m <;> decide
  intro h
  exact hmethod m (hm ▸ mem_of_mem_ruleLine (by decide) h)

/-- The line of a rule determines what the rule says of itself. -/
lemma ruleTraits_of_ruleLine (hm : r.method = m.name) (hm' : r'.method = m'.name) {index : ℕ}
    (h : ruleLine index r = ruleLine index r') : Records.ruleTraits r = Records.ruleTraits r' := by
  have hblank : ∀ m : Method, ' ' ∉ m.name := by
    intro m
    cases m <;> decide
  have hcase : ∀ b b', caseWords b = caseWords b' → b = b' := by decide
  have hmethods : r.method ++ ' ' :: (r.pattern.quoted ++ caseWords r.caseSensitive) =
      r'.method ++ ' ' :: (r'.pattern.quoted ++ caseWords r'.caseSensitive) := by
    unfold ruleLine at h
    simpa using h
  obtain ⟨hmethod, hrest⟩ := append_cons_inj (hm ▸ hblank m) (hm' ▸ hblank m') hmethods
  obtain ⟨hpattern, hwords⟩ := quoted_append_inj hrest
  rw [Records.ruleTraits, Records.ruleTraits, hmethod, hpattern, hcase _ _ hwords]

lemma madeOf_rules {rs : List Rule} (h : ∀ r ∈ rs, ∃ m : Method, r.method = m.name) (index : ℕ) :
    MadeOf (rules index rs) (ruleLines index rs) := by
  induction rs generalizing index with
  | nil => exact ⟨rfl, List.forall_mem_nil _⟩
  | cons r rs ih =>
    obtain ⟨⟨m, hm⟩, hrs⟩ := List.forall_mem_cons.1 h
    rw [rules, rule_eq, ruleLines_cons]
    exact (ih hrs (index + 1)).cons (newline_not_mem_ruleLine hm index)

lemma map_ruleTraits_of_ruleLines {rs rs' : List Rule}
    (h : ∀ r ∈ rs, ∃ m : Method, r.method = m.name)
    (h' : ∀ r ∈ rs', ∃ m : Method, r.method = m.name) {index : ℕ}
    (heq : ruleLines index rs = ruleLines index rs') :
    rs.map Records.ruleTraits = rs'.map Records.ruleTraits := by
  induction rs generalizing rs' index with
  | nil =>
    have hlength := congrArg List.length heq
    rw [length_ruleLines, length_ruleLines] at hlength
    rw [List.length_eq_zero_iff.1 hlength.symm]
  | cons r rs ih =>
    cases rs' with
    | nil => cases heq
    | cons r' rs' =>
      obtain ⟨⟨m, hm⟩, hrs⟩ := List.forall_mem_cons.1 h
      obtain ⟨⟨m', hm'⟩, hrs'⟩ := List.forall_mem_cons.1 h'
      rw [ruleLines_cons, ruleLines_cons] at heq
      obtain ⟨hline, hlines⟩ := List.cons.inj heq
      rw [List.map_cons, List.map_cons, ruleTraits_of_ruleLine hm hm' hline, ih hrs hrs' hlines]

end Rules

/-! ### The name -/

/-- The names are equal, or one is empty and the other is what is written in its place. -/
def SameName (a b : Text) : Prop :=
  a = b ∨ (a = [] ∧ b = "<unnamed>") ∨ (a = "<unnamed>" ∧ b = [])

lemma sameName_of_setName {a b : Text} (h : setName a = setName b) : SameName a b := by
  unfold setName at h
  cases a with
  | nil =>
    cases b with
    | nil => exact Or.inl rfl
    | cons d b => exact Or.inr (Or.inl ⟨rfl, h.symm⟩)
  | cons c a =>
    cases b with
    | nil => exact Or.inr (Or.inr ⟨h, rfl⟩)
    | cons d b => exact Or.inl h

/-- All that is written around a name is plain. -/
lemma mem_of_mem_headerLine {s : RuleSet} {c : Char} (hc : c.toNat < 0x20)
    (h : c ∈ headerLine s) : c ∈ s.name := by
  have hfront : Plain "Filter: ".toList := by decide
  have hback : Plain (" (".toList ++ (Text.ofNat s.size ++ " rules)".toList)) := by
    simp [plain_ofNat]
  unfold headerLine at h
  rw [List.append_assoc, List.append_assoc] at h
  have hname : c ∈ setName s.name := hfront.mem_between hback hc h
  unfold setName at hname
  split at hname
  · have hunnamed : Plain "<unnamed>".toList := by decide
    exact absurd hname (hunnamed.not_mem hc)
  · exact hname

lemma newline_not_mem_headerLine {s : RuleSet} (h : '\n' ∉ s.name) : '\n' ∉ headerLine s :=
  fun hmem => h (mem_of_mem_headerLine (by decide) hmem)

/-- The first line determines the name that is written and the number of rules: whatever the name,
the last parenthesis is the one before the number. -/
lemma headerLine_inj {s s' : RuleSet} (h : headerLine s = headerLine s') :
    setName s.name = setName s'.name ∧ s.size = s'.size := by
  have hdigits : ∀ n, '(' ∉ Text.ofNat n := by
    intro n hmem
    have hdigit : '('.isDigit = true := Nat.isDigit_of_mem_toDigits (by decide) (by decide) hmem
    exact absurd hdigit (by decide)
  have hparts : (setName s.name ++ [' ']) ++ '(' :: Text.ofNat s.size =
      (setName s'.name ++ [' ']) ++ '(' :: Text.ofNat s'.size := by
    unfold headerLine at h
    have hright := List.append_cancel_right h
    simpa using hright
  obtain ⟨hname, hsize⟩ := append_cons_inj_right (hdigits _) (hdigits _) hparts
  exact ⟨List.append_cancel_right hname, ofNat_injective hsize⟩

/-! ### The listing -/

section Listing

variable {s s' : RuleSet} {ds ds' : List Diagnostic}

lemma madeOf_listing (h : s.IsBuiltin) (hname : '\n' ∉ s.name) :
    MadeOf (header s ++ rules 0 s.rules) (listingLines s) :=
  (madeOf_rules h.exists_method 0).cons (newline_not_mem_headerLine hname)

lemma listingText_eq (s : RuleSet) (ds : List Diagnostic) :
    listingText s ds = (header s ++ rules 0 s.rules) ++ Styled.plain (dropped ds) := by
  unfold listingText listing Styled.plain
  simp [Styled.plainPiece]

lemma listing_determines (h : s.IsBuiltin) (h' : s'.IsBuiltin) (hname : '\n' ∉ s.name)
    (hname' : '\n' ∉ s'.name) (heq : listingText s ds = listingText s' ds') :
    s.rules.map Records.ruleTraits = s'.rules.map Records.ruleTraits ∧
      SameName s.name s'.name := by
  rw [listingText_eq, listingText_eq] at heq
  have hheader : headerLine s = headerLine s' := by
    rw [header_eq, header_eq, line, line] at heq
    simp only [List.append_assoc, List.singleton_append] at heq
    exact (append_cons_inj (newline_not_mem_headerLine hname)
      (newline_not_mem_headerLine hname') heq).1
  obtain ⟨hsetName, hsize⟩ := headerLine_inj hheader
  -- the number in the first line says how many lines of rules there are
  have hlength : (listingLines s).length = (listingLines s').length := by
    simp only [listingLines, List.length_cons, length_ruleLines]
    exact congrArg Nat.succ hsize
  obtain ⟨hlines, -⟩ :=
    (madeOf_listing h hname).append_inj (madeOf_listing h' hname') hlength heq
  exact ⟨map_ruleTraits_of_ruleLines h.exists_method h'.exists_method (List.cons.inj hlines).2,
    sameName_of_setName hsetName⟩

end Listing

/-- **The listing determines the rules.** For a set of builtin rules whose name has no line feed,
the first line tells the name and the number of rules, and each rule has one line, in order,
whatever its pattern; the lines for the entries that were left out come behind these. Two such sets
with the same listing have equally many rules, which say the same of themselves in the same order,
and the same name, but for the empty name and the words that are written for it. -/
theorem listing_determines_rules :
    (∀ (s : RuleSet) (ds : List Diagnostic), s.IsBuiltin → '\n' ∉ s.name →
      ∃ front, (∀ ls, MadeOf front ls ↔ ls = headerLine s :: ruleLines 0 s.rules) ∧
        listingText s ds = front ++ Styled.plain (dropped ds)) ∧
    ∀ (s s' : RuleSet) (ds ds' : List Diagnostic), s.IsBuiltin → s'.IsBuiltin →
      '\n' ∉ s.name → '\n' ∉ s'.name → listingText s ds = listingText s' ds' →
      s.size = s'.size ∧ s.rules.map Records.ruleTraits = s'.rules.map Records.ruleTraits ∧
        SameName s.name s'.name := by
  refine ⟨fun s ds h hname => ⟨_, fun _ => (madeOf_listing h hname).iff_eq, listingText_eq s ds⟩,
    fun s s' ds ds' h h' hname hname' heq => ?_⟩
  obtain ⟨htraits, hsame⟩ := listing_determines h h' hname hname' heq
  have hsize : s.rules.length = s'.rules.length := by
    simpa using congrArg List.length htraits
  exact ⟨hsize, htraits, hsame⟩

/-- A set without a name and a set with the words for none, with a pattern that looks like the end
of its line and the beginning of the next, and with an entry left out whose message has two
lines. -/
theorem listing_determines_rules_unnamed :
    let rules : List Rule :=
      [.contains "\" (case-sensitive)\n  [1] regex \"" false, .endsWith "\\" true]
    let s : RuleSet := ⟨"", rules⟩
    let s' : RuleSet := ⟨"<unnamed>", rules⟩
    let ds : List Diagnostic := [⟨2, .unknownMethod "a\n  [2] b" []⟩]
    s.IsBuiltin ∧ s'.IsBuiltin ∧ '\n' ∉ s.name ∧ '\n' ∉ s'.name ∧
      listingText s ds = listingText s' ds ∧ SameName s.name s'.name ∧
      ∃ front, MadeOf front (headerLine s :: ruleLines 0 rules) ∧
        listingText s ds = front ++ Styled.plain (dropped ds) := by
  intro rules s s' ds
  have hrules : ∀ r ∈ rules, ∃ method pattern caseSensitive,
      Registry.builtin.build method pattern caseSensitive = .ok r := by
    refine List.forall_mem_cons.2 ⟨⟨"contains", _, false, rfl⟩, List.forall_mem_cons.2 ⟨?_, nofun⟩⟩
    exact ⟨"endswith", _, true, rfl⟩
  have hname : '\n' ∉ s.name := by decide
  have hname' : '\n' ∉ s'.name := by decide
  have hsame : listingText s ds = listingText s' ds := by
    have hheader : header s = header s' := rfl
    unfold listingText listing
    rw [hheader]
  obtain ⟨front, hfront, htext⟩ := listing_determines_rules.1 s ds hrules hname
  exact ⟨hrules, hrules, hname, hname', hsame,
    (listing_determines_rules.2 s s' ds ds hrules hrules hname hname' hsame).2.2,
    front, (hfront _).2 rfl, htext⟩

end Readable

end TextSieve
