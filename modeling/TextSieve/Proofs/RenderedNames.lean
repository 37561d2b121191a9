import TextSieve.Proofs.Export
import TextSieve.Proofs.JsonTrees

/-!
Names that are neither texts nor null. A set bears the JSON of such a name, and the name is read
back from it: it was read inside a document, so there is room for its containers, and without binary
numbers its JSON tells all of it.
-/

namespace TextSieve

/-- The value is shown by its JSON where it is a name, and it has no binary number in it. -/
structure Value.IsStructured (v : Value) : Prop where
  ne_str (t : Text) : v ≠ .str t
  ne_null : v ≠ .null
  floatFree : v.FloatFree

/-- What is in an object was read where one container had been opened. -/
lemma Json.WellFormed.of_mem {d : ℕ} {members : List (Text × Value)}
    (h : WellFormed (d + 1) (.obj members)) : ∀ m ∈ members, WellFormed d m.2 := by
  cases h with
  | obj _ wellFormed => exact wellFormed

lemma read_of_decode {text : Text} {document : Value} (h : decode .json text = .ok document) :
    Json.read text = .ok document := by
  unfold decode at h
  dsimp only at h
  cases hr : Json.read text with
  | error e =>
    rw [hr] at h
    cases h
  | ok document' =>
    rw [hr] at h
    cases h
    rfl

/-- A value that was read as part of a document is legible on its own, if it has no binary number
in it. -/
lemma legible_of_lookup {text key : Text} {members : List (Text × Value)} {v : Value}
    (h : decode .json text = .ok (.obj members)) (hv : members.lookup key = some v)
    (hfree : v.FloatFree) : Json.Legible Json.maxDepth v := by
  obtain ⟨front, back, rfl, -⟩ := List.lookup_eq_some_iff.1 hv
  have hdocument : Json.WellFormed (127 + 1) _ := Json.wellFormed_of_read (read_of_decode h)
  have hwell : Json.WellFormed 127 v :=
    hdocument.of_mem (key, v) (List.mem_append_right front List.mem_cons_self)
  exact (hwell.legible hfree).succ

namespace RuleSet

lemma nameOf_of_isStructured {name : Value} (h : name.IsStructured) :
    nameOf name = Json.write name := by
  cases name with
  | str t => exact absurd rfl (h.ne_str t)
  | null => exact absurd rfl h.ne_null
  | _ => rfl

/-- The JSON text holds a filter document with the name, and reading it gives the set, in one of the
modes, with some registry, and with some sink. -/
def Bears (text : Text) (name : Value) (set : RuleSet) : Prop :=
  ∃ document entries, decode .json text = .ok document ∧ document.IsFilter name entries ∧
    ∃ (σ : Type) (skipInvalid : Bool) (registry : Registry) (sink : Sink σ) (s : σ),
      (ofText ⟨skipInvalid, .json⟩ registry sink text s).result = .ok (some set)

section Bears

variable {text : Text} {name : Value} {set : RuleSet}

lemma Bears.name_eq (h : Bears text name set) : set.name = nameOf name := by
  obtain ⟨document, entries, hdecode, ⟨members, rfl, hname, -⟩, σ, skipInvalid, registry, sink, s,
    hset⟩ := h
  simp only [ofText, hdecode] at hset
  obtain ⟨name', entries', ⟨members', hmembers, hname', -⟩, rfl⟩ := eq_kept_of_ofValue hset
  cases hmembers
  rw [hname] at hname'
  cases hname'
  rfl

lemma Bears.decode_name (h : Bears text name set) (hn : name.IsStructured) :
    decode .json set.name = .ok name := by
  rw [h.name_eq, nameOf_of_isStructured hn]
  obtain ⟨document, entries, hdecode, ⟨members, rfl, hname, -⟩, -⟩ := h
  exact decode_write (legible_of_lookup hdecode hname hn.floatFree)

/-- **A structured name is not lost.** The name of the set is a JSON text, and its tree is the name
that the document has; so documents with different names of this sort never give sets with one
name. -/
theorem structured_name_lossless (h : Bears text name set) (hn : name.IsStructured) :
    decode .json set.name = .ok name ∧
    ∀ {text' : Text} {name' : Value} {set' : RuleSet}, Bears text' name' set' →
      name'.IsStructured → name' ≠ name → set'.name ≠ set.name := by
  have hname := h.decode_name hn
  refine ⟨hname, fun {text' name' set'} h' hn' hne heq => hne ?_⟩
  have hname' := h'.decode_name hn'
  rw [heq, hname] at hname'
  exact (Except.ok.inj hname').symm

/-- A name with the least and the greatest integer, an escaped key, and containers in containers,
in a document with an entry that is left out. -/
theorem structured_name_lossless_nested :
    let name : Value := .arr [.obj [("a\n".toList, .null), ("b".toList, .int 18446744073709551615)],
      .int (-9223372036854775808), .arr [.arr [.bool true]]]
    let document : Value := .obj [("filters".toList, .arr [.int 3]), ("name".toList, name)]
    let set : RuleSet := ⟨Json.write name, []⟩
    Bears (Json.write document) name set ∧ name.IsStructured ∧
      decode .json set.name = .ok name := by
  intro name document set
  have hobj : Json.Legible 126 (.obj [("a\n".toList, .null),
      ("b".toList, .int 18446744073709551615)]) := by
    refine .obj (by decide) ?_
    simp only [List.forall_mem_cons]
    exact ⟨.null, .int (by decide) (by decide), List.forall_mem_nil _⟩
  have hname : Json.Legible 127 name := by
    refine .arr ?_
    simp only [List.forall_mem_cons]
    exact ⟨hobj, .int (by decide) (by decide),
      .arr (List.forall_mem_singleton.2 (.arr (List.forall_mem_singleton.2 .bool))),
      List.forall_mem_nil _⟩
  have hdocument : Json.Legible Json.maxDepth document := by
    refine .obj (d := 126) (by decide) ?_
    simp only [List.forall_mem_cons]
    exact ⟨.arr (List.forall_mem_singleton.2 (.int (by decide) (by decide))), hname,
      List.forall_mem_nil _⟩
  have h : Bears (Json.write document) name set := by
    have hdecode := decode_write hdocument
    refine ⟨_, _, hdecode, ⟨_, rfl, rfl, rfl⟩, Unit, true, .builtin, .discard, (), ?_⟩
    simp only [ofText, hdecode]
    rfl
  have hn : name.IsStructured := by
    refine ⟨fun _ => Value.noConfusion, Value.noConfusion, .arr ?_⟩
    simp only [List.forall_mem_cons]
    refine ⟨.obj ?_, .int, .arr (List.forall_mem_singleton.2 (.arr
      (List.forall_mem_singleton.2 .bool))), List.forall_mem_nil _⟩
    simp only [List.forall_mem_cons]
    exact ⟨.null, .int, List.forall_mem_nil _⟩
  exact ⟨h, hn, (structured_name_lossless h hn).1⟩

end Bears

end RuleSet

end TextSieve
