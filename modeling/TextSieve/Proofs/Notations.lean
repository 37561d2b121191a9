import TextSieve.Proofs.Export
import TextSieve.Proofs.TomlTables
import TextSieve.Proofs.TomlTypes

/-!
One filter in both notations. In TOML a filter is a line with its name and a table for each entry,
whose keys stand in any order; all texts that write a filter are read as the same tree, which is the
one that its JSON is read as. So nothing that is read from a filter depends on its notation.
-/

namespace TextSieve

/-! ### Filters -/

/-- An entry of a filter; it need not say whether case counts. -/
structure Clause where
  text : Text
  method : Text
  caseSensitive : Option Bool

/-- The document tree of an entry. -/
def Clause.toEntry (c : Clause) : Value :=
  .ofMembers (("text", .str c.text) :: ("method", .str c.method) ::
    (c.caseSensitive.map fun b => (("case_sensitive" : Text), Value.bool b)).toList)

/-- The document tree of a filter. -/
def Clause.document (name : Text) (cs : List Clause) : Value :=
  .ofMembers [("name", .str name), ("filters", .arr (cs.map toEntry))]

namespace Toml

/-- The keys of an entry and their values. -/
def pairsOf (c : Clause) : List (Text × Datum) :=
  ("text", .text c.text) :: ("method", .text c.method) ::
    (c.caseSensitive.map fun b => (("case_sensitive" : Text), Datum.truth b)).toList

/-- The line with a key and a value. -/
inductive PairLine : Text × Datum → Text → Prop
  | mk {key w : Text} {d : Datum} (written : Written d w) : PairLine (key, d) (pairLine key w)

/-- A table with the keys of an entry in any order, each on its own line. -/
inductive ClauseTable (c : Clause) : Text → Prop
  | mk {pairs : List (Text × Datum)} {body : Text} (order : pairs.Perm (pairsOf c))
      (lines : Text.Parts PairLine pairs body) : ClauseTable c (elementLine "filters" ++ body)

/-- A filter in TOML: the line with its name, and a table for each entry. Without entries, a line
says so. -/
inductive FilterText (name : Text) : List Clause → Text → Prop
  | empty {first last : Text} (title : PairLine ("name", .text name) first)
      (none : PairLine ("filters", .array []) last) : FilterText name [] (first ++ last)
  | tables {c : Clause} {cs : List Clause} {first rest : Text}
      (title : PairLine ("name", .text name) first)
      (entries : Text.Parts ClauseTable (c :: cs) rest) : FilterText name (c :: cs) (first ++ rest)

/-! ### The usual text of a filter -/

/-- The usual table of an entry. -/
def writeClause (c : Clause) : Text :=
  elementLine "filters" ++ (textLine "text" c.text ++ (textLine "method" c.method ++
    (c.caseSensitive.toList.flatMap fun b => pairLine "case_sensitive" (Text.ofBool b))))

/-- The usual text of a filter. -/
def writeFilter (name : Text) : List Clause → Text
  | [] => textLine "name" name ++ pairLine "filters" "[]"
  | c :: cs => textLine "name" name ++ (c :: cs).flatMap writeClause

lemma pairLine_textLine (key t : Text) : PairLine (key, .text t) (textLine key t) :=
  .mk (.text (Text.parts_flatMap spelling_spell t))

lemma clauseTable_writeClause (c : Clause) : ClauseTable c (writeClause c) := by
  have hflag : Text.Parts PairLine
      (c.caseSensitive.map fun b => (("case_sensitive" : Text), Datum.truth b)).toList
      (c.caseSensitive.toList.flatMap fun b => pairLine "case_sensitive" (Text.ofBool b)) := by
    cases c.caseSensitive with
    | none => exact .nil
    | some b => exact .cons (.mk (.truth b)) .nil
  exact .mk (List.Perm.refl _)
    (.cons (pairLine_textLine "text" c.text) (.cons (pairLine_textLine "method" c.method) hflag))

/-- The usual text of a filter writes it, with every special character given by its code. -/
lemma filterText_writeFilter (name : Text) (cs : List Clause) :
    FilterText name cs (writeFilter name cs) := by
  have hname := pairLine_textLine "name" name
  cases cs with
  | nil => exact .empty hname (.mk .empty)
  | cons c cs => exact .tables hname (Text.parts_flatMap clauseTable_writeClause (c :: cs))

/-! ### Reading the tables -/

lemma PairLine.readsLine {p : Text × Datum} {line : Text} (h : PairLine p line) :
    ReadsLine p line := by
  cases h with
  | mk written => exact ⟨_, written.reads, rfl⟩

lemma keys_pairsOf (c : Clause) :
    (∀ k ∈ (pairsOf c).map (·.1), IsBare k) ∧ ((pairsOf c).map (·.1)).Nodup := by
  obtain ⟨text, method, flag⟩ := c
  cases flag with
  | none =>
    have hkeys : (pairsOf ⟨text, method, none⟩).map (·.1) = ["text".toList, "method".toList] := rfl
    rw [hkeys]
    decide
  | some b =>
    have hkeys : (pairsOf ⟨text, method, some b⟩).map (·.1) =
        ["text".toList, "method".toList, "case_sensitive".toList] := rfl
    rw [hkeys]
    decide

/-- The table of an entry. -/
def tableOf (c : Clause) : Entries := withPairs (pairsOf c) []

/-- Where a header begins a table, the text of an entry adds the table of the entry. -/
lemma leads_clauseTable {name : Text} {draft : Draft} {front : List Entries} {c : Clause}
    {t : Text} (h : ClauseTable c t)
    (hadd : draft.add (.element [("filters" : Text)]) = some (draftOf name (front ++ [[]]))) :
    Leads draft t (draftOf name (front ++ [tableOf c])) := by
  cases h with
  | @mk pairs body order lines =>
    have hheader := leads_elementLine (by decide) hadd
    obtain ⟨hbare, hnodup⟩ := keys_pairsOf c
    have hkeys := order.map (·.1)
    have hbare' : ∀ k ∈ pairs.map (·.1), IsBare k := fun k hk => hbare k (hkeys.mem_iff.1 hk)
    have hnodup' : (pairs.map (·.1)).Nodup := hkeys.nodup_iff.2 hnodup
    have hlines := lines.imp fun _ _ hline => PairLine.readsLine hline
    have hbody := leads_pairLines name front hlines hbare' hnodup' fun _ _ => List.lookup_nil
    rw [withPairs_perm order hnodup'] at hbody
    exact hheader.trans hbody

lemma leads_clauseTables (name : Text) {cs : List Clause} {t : Text}
    (h : Text.Parts ClauseTable cs t) (tables : List Entries) :
    Leads (draftOf name tables) t (draftOf name (tables ++ cs.map tableOf)) := by
  induction h generalizing tables with
  | nil =>
    rw [List.map_nil, List.append_nil]
    exact .refl _
  | @cons c cs table rest first others ih =>
    have hfirst := leads_clauseTable first (draftOf_add_element name tables)
    have hrest := ih (tables ++ [tableOf c])
    rw [List.append_assoc, List.singleton_append] at hrest
    exact hfirst.trans hrest

/-! ### The tree of a filter -/

lemma toValue_tableOf (c : Clause) :
    (Datum.table (membersOf (tableOf c))).toValue = c.toEntry := by
  obtain ⟨text, method, flag⟩ := c
  cases flag <;> rfl

lemma treesOf_tables (cs : List Clause) :
    treesOf (itemsOf (cs.map tableOf)) = cs.map Clause.toEntry := by
  induction cs with
  | nil => rfl
  | cons c cs ih =>
    rw [List.map_cons, itemsOf, treesOf, toValue_tableOf, ih]
    rfl

lemma toValue_draftOf (name : Text) (cs : List Clause) :
    (Datum.table (membersOf (draftOf name (cs.map tableOf)).entries)).toValue =
      Clause.document name cs := by
  show Value.obj [(_, .arr (treesOf (itemsOf (cs.map tableOf)))), (_, .str name)] = _
  rw [treesOf_tables]
  rfl

lemma leads_title {name line : Text} (h : PairLine ("name", .text name) line) :
    Leads ⟨[], []⟩ line ⟨[("name", .value (.text name))], []⟩ := by
  obtain ⟨w, hw, rfl⟩ := h.readsLine
  have hbare : IsBare "name" := by decide
  exact leads_pairLine hbare hw rfl

lemma dropMark_title {name line : Text} (h : PairLine ("name", .text name) line) (rest : Text) :
    dropMark (line ++ rest) = line ++ rest := by
  cases h
  rfl

/-- **A filter in TOML** is read as its tree. -/
lemma FilterText.read_eq {name : Text} {cs : List Clause} {t : Text} (h : FilterText name cs t) :
    read t = .ok (Clause.document name cs) := by
  cases h with
  | @empty first last title none =>
    obtain ⟨w, hw, rfl⟩ := none.readsLine
    have hbare : IsBare "filters" := by decide
    have hleads := (leads_title title).trans (leads_pairLine hbare hw rfl)
    rw [read, readTable_of_leads hleads (dropMark_title title _)]
    rfl
  | @tables c cs first rest title entries =>
    have hbegin : Draft.add ⟨[("name", .value (.text name))], []⟩ (.element [("filters" : Text)]) =
        some (draftOf name ([] ++ [[]])) := rfl
    cases entries with
    | @cons _ _ table rest htable hrest =>
      have htables := (leads_clauseTable htable hbegin).trans (leads_clauseTables name hrest _)
      have hleads := (leads_title title).trans htables
      rw [read, readTable_of_leads hleads (dropMark_title title _)]
      exact congrArg Except.ok (toValue_draftOf name (c :: cs))

end Toml

/-! ### Both notations -/

lemma Clause.legible_toEntry (d : ℕ) (c : Clause) : Json.Legible (d + 2) c.toEntry := by
  refine .ofMembers fun m hm => ?_
  rcases List.mem_cons.1 hm with rfl | hm
  · exact .str
  rcases List.mem_cons.1 hm with rfl | hm
  · exact .str
  obtain ⟨b, -, rfl⟩ := Option.map_eq_some_iff.1 (Option.mem_toList.1 hm)
  exact .bool

lemma Clause.legible_document (name : Text) (cs : List Clause) :
    Json.Legible Json.maxDepth (document name cs) := by
  refine Json.legible_filter name fun v hv => ?_
  obtain ⟨c, -, rfl⟩ := List.mem_map.1 hv
  exact c.legible_toEntry 124

namespace RuleSet

open Clause Toml

/-- **The notation of a filter does not matter.** Any text that writes a filter in TOML is read as
the tree of the filter, and so is its JSON. So with every registry, in both modes, reading one and
reading the other give the same set or the same error, report the same to the sink, and have the
same events. There is such a text for each filter. -/
theorem ofText_toml_eq_json (name : Text) (cs : List Clause) :
    FilterText name cs (writeFilter name cs) ∧ ∀ toml, FilterText name cs toml →
      let json := Json.write (document name cs)
      decode .toml toml = .ok (document name cs) ∧ decode .json json = .ok (document name cs) ∧
      ∀ (skipInvalid : Bool) (registry : Registry) {σ : Type} (sink : Sink σ) (s : σ),
        ofText ⟨skipInvalid, .toml⟩ registry sink toml s =
          ofText ⟨skipInvalid, .json⟩ registry sink json s := by
  refine ⟨filterText_writeFilter name cs, fun toml h => ?_⟩
  intro json
  have htoml : decode .toml toml = .ok (document name cs) := by
    unfold decode
    rw [h.read_eq]
    rfl
  have hjson : decode .json json = .ok (document name cs) := by
    unfold decode
    rw [Json.read_write (legible_document name cs)]
    rfl
  refine ⟨htoml, hjson, fun skipInvalid registry σ sink s => ?_⟩
  rw [ofText_of_decode htoml, ofText_of_decode hjson]

/-- A filter with two entries, one of them with its keys in another order, and with a character
whose code is written with an upper-case digit. -/
def quotedFilter : Text := "name = \"\\u0022F\\u0022\"\n[[filters]]\nmethod = \"contains\"\n" ++
  "case_sensitive = true\ntext = \"a\\u005C\"\n[[filters]]\ntext = \"\\u0009é\"\n".toList ++
  "method = \"regex\"\n".toList

/-- It is read in both notations alike. -/
theorem ofText_toml_eq_json_quoted :
    let name : Text := "\"F\""
    let first : Clause := ⟨"a\\", "contains", some true⟩
    let second : Clause := ⟨"\té", "regex", none⟩
    let document := Clause.document name [first, second]
    FilterText name [first, second] quotedFilter ∧ decode .toml quotedFilter = .ok document ∧
      ofText ⟨true, .toml⟩ .builtin .collect quotedFilter [] =
        ofText ⟨true, .json⟩ .builtin .collect (Json.write document) [] := by
  intro name first second document
  let pairs : List (Text × Datum) :=
    [("method", .text "contains"), ("case_sensitive", .truth true), ("text", .text "a\\")]
  have horder : pairs.Perm (pairsOf first) :=
    (List.Perm.cons _ (.swap _ _ _)).trans (.swap _ _ _)
  have hex : ∀ d ∈ ['0', '0', '5', 'C'], isDigitOf 16 d = true := by
    simp only [List.forall_mem_cons]
    exact ⟨rfl, rfl, rfl, rfl, nofun⟩
  have hslash : Text.Parts Spelling "a\\" (['a'] ++ (['\\', 'u', '0', '0', '5', 'C'] ++ [])) :=
    .cons (spelling_spell 'a') (.cons (.coded rfl hex rfl) .nil)
  have hpairs : Text.Parts PairLine pairs _ :=
    .cons (pairLine_textLine "method" "contains")
      (.cons (.mk (.truth true)) (.cons (.mk (.text hslash)) .nil))
  have hwritten : FilterText name [first, second] _ :=
    .tables (pairLine_textLine "name" name)
      (.cons (.mk horder hpairs) (.cons (clauseTable_writeClause second) .nil))
  have hfilter : FilterText name [first, second] quotedFilter := by
    refine Eq.mp (congrArg _ ?_) hwritten
    rfl
  obtain ⟨htoml, -, hread⟩ := (ofText_toml_eq_json name [first, second]).2 quotedFilter hfilter
  exact ⟨hfilter, htoml, hread true .builtin .collect []⟩

end RuleSet

end TextSieve
