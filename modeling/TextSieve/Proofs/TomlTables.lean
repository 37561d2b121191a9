import TextSieve.Proofs.KeyedEntries
import TextSieve.Proofs.TomlTokens

/-!
Lines of TOML, read one after the other: pairs of bare keys and values, and headers of elements. A
line leads from one draft to the next, whatever follows it; so a filter is read line by line, and
each of its tables comes to the same for all orders of its lines.
-/

namespace TextSieve.Toml

/-! ### Statements -/

lemma readLineEnd_newline (rest : Text) : readLineEnd ('\n' :: rest) = .ok rest := by
  rfl

/-- A line with a bare key and a value is read to its end. -/
lemma readStatement_pair {key w : Text} {d : Datum} (hkey : IsBare key) (hd : Reads w d)
    {fuel : ℕ} (hfuel : w.length ≤ fuel) (rest : Text) :
    readStatement fuel (key ++ ' ' :: '=' :: ' ' :: (w ++ '\n' :: rest)) =
      .ok (.pair [key] d, rest) := by
  have hpos : 0 < fuel := Nat.lt_of_lt_of_le hd.nonempty hfuel
  have hends : EndsKey (' ' :: '=' :: ' ' :: (w ++ '\n' :: rest)) := ⟨' ', _, rfl, rfl⟩
  have hpath := readShortPath_bare hkey hpos (key ++ ' ' :: '=' :: ' ' :: (w ++ '\n' :: rest))
    hends rfl (by decide)
  have hexpect : expect '=' ('=' :: ' ' :: (w ++ '\n' :: rest)) =
      .ok (' ' :: (w ++ '\n' :: rest)) := rfl
  have hblank := hd.unblank ('\n' :: rest)
  have hvalue := hd.value fuel rest hfuel
  obtain ⟨c, t, rfl, hc⟩ := hkey.exists_cons
  have hbracket : c ≠ '[' := ne_of_isBareChar hc rfl
  rw [List.cons_append] at hpath ⊢
  rw [readStatement, hpath]
  · simp only [bind, Except.bind, hexpect, hblank, hvalue, readLineEnd_newline]
    rfl
  · exact fun u hu => hbracket (List.cons.inj hu).1
  · exact fun hu => hbracket (List.cons.inj hu).1
  · exact fun u hu => hbracket (List.cons.inj hu).1

/-- The header of an element under a bare key is read to the end of its line. -/
lemma readStatement_element {key : Text} (hkey : IsBare key) {fuel : ℕ} (hfuel : 0 < fuel)
    (rest : Text) :
    readStatement fuel ('[' :: '[' :: (key ++ ']' :: ']' :: '\n' :: rest)) =
      .ok (.element [key], rest) := by
  have hends : EndsKey (']' :: ']' :: '\n' :: rest) := ⟨']', _, rfl, rfl⟩
  have hpath := readShortPath_bare hkey hfuel (key ++ ']' :: ']' :: '\n' :: rest) hends rfl
    (by decide)
  rw [readStatement, hpath]
  rfl

/-- A statement that has been read is taken up, and what follows its line is read next. -/
lemma readStatements_step {fuel : ℕ} {draft draft' : Draft} {c : Char} {t rest : Text}
    {statement : Statement} (hc : c = '[' ∨ isBareChar c = true)
    (hread : readStatement fuel (c :: t) = .ok (statement, rest))
    (hadd : draft.add statement = some draft') :
    readStatements (fuel + 1) draft (c :: t) = readStatements fuel draft' rest := by
  have hne : ∀ d : Char, d ≠ '[' → isBareChar d = false → c ≠ d := by
    rintro d hd hbare rfl
    rcases hc with rfl | hc
    · exact hd rfl
    · exact ne_of_isBareChar hc hbare rfl
  have hblank : skipBlank (c :: t) = c :: t := by
    rcases hc with rfl | hc
    · rfl
    · exact skipBlank_of_bare hc t
  have hnewline : afterNewline? (c :: t) = none := by
    unfold afterNewline?
    split
    · next h => exact absurd (List.cons.inj h).1 (hne '\n' (by decide) rfl)
    · next h => exact absurd (List.cons.inj h).1 (hne '\r' (by decide) rfl)
    · rfl
  rw [readStatements, hblank]
  split
  · next h => cases h
  · next h => exact absurd (List.cons.inj h).1 (hne '#' (by decide) rfl)
  · simp only [hnewline, bind, Except.bind, hread, hadd]

/-! ### Lines -/

/-- The line with a key and a written value. -/
def pairLine (key w : Text) : Text := key ++ ' ' :: '=' :: ' ' :: (w ++ ['\n'])

/-- The line that begins an element of an array of tables. -/
def elementLine (key : Text) : Text := '[' :: '[' :: (key ++ [']', ']', '\n'])

/-- The line with a key and a text in its usual spelling. -/
def textLine (key t : Text) : Text := pairLine key (quoted (t.flatMap spell))

/-- The line gives the value to the key. -/
def ReadsLine (p : Text × Datum) (line : Text) : Prop := ∃ w, Reads w p.2 ∧ line = pairLine p.1 w

lemma readsLine_textLine (key t : Text) : ReadsLine (key, .text t) (textLine key t) :=
  ⟨_, reads_spelled t, rfl⟩

/-- The text leads from one draft to another, whatever follows it. -/
def Leads (d : Draft) (t : Text) (d' : Draft) : Prop :=
  ∀ fuel rest, t.length + rest.length < fuel →
    ∃ fuel', rest.length < fuel' ∧ readStatements fuel d (t ++ rest) = readStatements fuel' d' rest

lemma Leads.refl (d : Draft) : Leads d [] d := by
  intro fuel rest hfuel
  rw [List.length_nil, Nat.zero_add] at hfuel
  exact ⟨fuel, hfuel, rfl⟩

lemma Leads.trans {d d' d'' : Draft} {t u : Text} (h : Leads d t d') (h' : Leads d' u d'') :
    Leads d (t ++ u) d'' := by
  intro fuel rest hfuel
  have hlength : t.length + (u ++ rest).length < fuel := by
    rw [List.length_append] at hfuel ⊢
    omega
  obtain ⟨fuel₁, hfuel₁, h₁⟩ := h fuel (u ++ rest) hlength
  rw [List.length_append] at hfuel₁
  obtain ⟨fuel₂, hfuel₂, h₂⟩ := h' fuel₁ rest hfuel₁
  exact ⟨fuel₂, hfuel₂, by rw [List.append_assoc, h₁, h₂]⟩

/-- A text that leads to a draft is read as that draft. -/
lemma Leads.read_eq {d d' : Draft} {t : Text} (h : Leads d t d') {fuel : ℕ}
    (hfuel : t.length < fuel) : readStatements fuel d t = .ok d' := by
  obtain ⟨fuel', hfuel', hread⟩ := h fuel [] hfuel
  obtain ⟨fuel', rfl⟩ := Nat.exists_eq_add_one.2 hfuel'
  rw [List.append_nil] at hread
  rw [hread]
  rfl

/-- A line leads on if it is read as a statement that does not clash with the draft. -/
lemma leads_statement {c : Char} {t : Text} {statement : Statement} {draft draft' : Draft}
    (hc : c = '[' ∨ isBareChar c = true)
    (hread : ∀ fuel rest, t.length ≤ fuel →
      readStatement fuel (c :: (t ++ rest)) = .ok (statement, rest))
    (hadd : draft.add statement = some draft') : Leads draft (c :: t) draft' := by
  intro fuel rest hfuel
  rw [List.length_cons] at hfuel
  obtain ⟨fuel, rfl⟩ := Nat.exists_eq_add_one.2 (Nat.zero_lt_of_lt hfuel)
  have ht : t.length ≤ fuel := by omega
  exact ⟨fuel, by omega, readStatements_step hc (hread fuel rest ht) hadd⟩

lemma leads_pairLine {key w : Text} {d : Datum} {draft draft' : Draft} (hkey : IsBare key)
    (h : Reads w d) (hadd : draft.add (.pair [key] d) = some draft') :
    Leads draft (pairLine key w) draft' := by
  have hread := fun fuel rest (hw : w.length ≤ fuel) => readStatement_pair hkey h hw rest
  obtain ⟨c, t, rfl, hc⟩ := hkey.exists_cons
  show Leads draft (c :: (t ++ ' ' :: '=' :: ' ' :: (w ++ ['\n']))) draft'
  refine leads_statement (Or.inr hc) (fun fuel rest hfuel => ?_) hadd
  have hw : w.length ≤ fuel := by
    simp only [List.length_append, List.length_cons] at hfuel
    omega
  have hline := hread fuel rest hw
  simp only [List.append_assoc, List.cons_append, List.nil_append] at hline ⊢
  exact hline

lemma leads_elementLine {key : Text} {draft draft' : Draft} (hkey : IsBare key)
    (hadd : draft.add (.element [key]) = some draft') :
    Leads draft (elementLine key) draft' := by
  show Leads draft ('[' :: '[' :: (key ++ [']', ']', '\n'])) draft'
  refine leads_statement (Or.inl rfl) (fun fuel rest hfuel => ?_) hadd
  have hpos : 0 < fuel := Nat.lt_of_lt_of_le (Nat.zero_lt_succ _) hfuel
  have hline := readStatement_element hkey hpos rest
  rw [List.cons_append, List.append_assoc]
  exact hline

/-! ### The tables of a filter -/

/-- What has been read of a filter: its name and its tables, to the last of which pairs go. -/
def draftOf (name : Text) (tables : List Entries) : Draft :=
  ⟨[("filters", .tables tables), ("name", .value (.text name))], ["filters"]⟩

/-- A pair with a new key goes to the last table. -/
lemma draftOf_add_pair (name : Text) (front : List Entries) {last : Entries} {key : Text}
    (d : Datum) (h : last.lookup key = none) :
    (draftOf name (front ++ [last])).add (.pair [key] d) =
      some (draftOf name (front ++ [Keyed.put key (.value d) last])) := by
  have hadd : addAt [key] d last = some (Keyed.put key (.value d) last) := by
    show (if (last.lookup key).isSome then none else _) = _
    rw [h]
    rfl
  have hlookup : (draftOf name (front ++ [last])).entries.lookup ("filters" : Text) =
      some (.tables (front ++ [last])) := rfl
  have hunder : addUnder ["filters"] [key] d (draftOf name (front ++ [last])).entries =
      some (draftOf name (front ++ [Keyed.put key (.value d) last])).entries := by
    rw [addUnder, changeAt, hlookup]
    simp only [List.getLast?_concat, List.dropLast_concat, changeAt, hadd]
    rfl
  have hheader : (draftOf name (front ++ [last])).header = [("filters" : Text)] := rfl
  rw [Draft.add, hheader, hunder]
  rfl

/-- A header begins an empty table. -/
lemma draftOf_add_element (name : Text) (tables : List Entries) :
    (draftOf name tables).add (.element [("filters" : Text)]) =
      some (draftOf name (tables ++ [[]])) := by
  rfl

/-- The entries of a table after some pairs. -/
def withPairs (pairs : List (Text × Datum)) (es : Entries) : Entries :=
  pairs.foldl (fun acc p => Keyed.put p.1 (.value p.2) acc) es

/-- Pairs with different keys may come in any order. -/
lemma withPairs_perm {pairs pairs' : List (Text × Datum)} (h : pairs.Perm pairs')
    (hnodup : (pairs.map (·.1)).Nodup) (es : Entries) : withPairs pairs es = withPairs pairs' es := by
  have hkeys : ((pairs.map fun p => (p.1, Node.value p.2)).map (·.1)).Nodup := by
    rw [List.map_map]
    exact hnodup
  have hfold := Keyed.foldl_put_perm (h.map fun p => (p.1, Node.value p.2)) hkeys es
  rw [List.foldl_map, List.foldl_map] at hfold
  exact hfold

/-- Lines with new keys, each of them once, go to the last table. -/
lemma leads_pairLines (name : Text) (front : List Entries) {pairs : List (Text × Datum)}
    {body : Text} (h : Text.Parts ReadsLine pairs body) (hbare : ∀ k ∈ pairs.map (·.1), IsBare k)
    (hnodup : (pairs.map (·.1)).Nodup) {last : Entries}
    (hnew : ∀ p ∈ pairs, last.lookup p.1 = none) :
    Leads (draftOf name (front ++ [last])) body
      (draftOf name (front ++ [withPairs pairs last])) := by
  induction h generalizing last with
  | nil => exact .refl _
  | @cons p pairs line rest first others ih =>
    obtain ⟨key, d⟩ := p
    obtain ⟨w, hw, rfl⟩ := first
    obtain ⟨hkey, hpairs⟩ := List.nodup_cons.1 hnodup
    obtain ⟨hbareKey, hbarePairs⟩ := List.forall_mem_cons.1 hbare
    have hadd := draftOf_add_pair name front d (hnew _ List.mem_cons_self)
    have hfirst := leads_pairLine hbareKey hw hadd
    have hlater : ∀ p ∈ pairs, (Keyed.put key (.value d) last).lookup p.1 = none := by
      intro p hp
      have hmem : p.1 ∈ pairs.map (·.1) := List.mem_map_of_mem hp
      have hne : p.1 ≠ key := by
        rintro rfl
        exact hkey hmem
      rw [Keyed.lookup_put, if_neg hne]
      exact hnew p (List.mem_cons_of_mem _ hp)
    exact hfirst.trans (ih hbarePairs hpairs hlater)

/-- A text that leads to a draft is read as the table of the draft. -/
lemma readTable_of_leads {t : Text} {draft : Draft} (h : Leads ⟨[], []⟩ t draft)
    (hmark : dropMark t = t) : readTable t = .ok (membersOf draft.entries) := by
  have hfuel : t.length < 4 * t.length + 4 := by omega
  unfold readTable
  rw [hmark, h.read_eq hfuel]

end TextSieve.Toml
