import Mathlib.Data.List.Forall2
import TextSieve.Proofs.ByteOrder
import TextSieve.Proofs.Grammar
import TextSieve.Proofs.KeyedEntries

/-!
Registries over whole runs. A registry is a finite map from methods to constructors: what all its
observers say of it follows from the registrations in its history, the last of which counts for a
method. Copies of a registry share its history up to the copy, and go their own ways from there.
-/

namespace TextSieve

/-! ### Lists of pairs that agree -/

section Forall₂

variable {α β : Type} {R : α → β → Prop} {xs : List α} {ys : List β}

lemma forall₂_getElem?_toList (h : List.Forall₂ R xs ys) (i : ℕ) :
    List.Forall₂ R xs[i]?.toList ys[i]?.toList := by
  induction h generalizing i with
  | nil => exact .nil
  | cons hxy _ ih =>
    cases i with
    | zero => exact .cons hxy .nil
    | succ i => exact ih i

lemma forall₂_modify (h : List.Forall₂ R xs ys) {f : α → α} {g : β → β}
    (hfg : ∀ x y, R x y → R (f x) (g y)) (i : ℕ) :
    List.Forall₂ R (xs.modify i f) (ys.modify i g) := by
  induction h generalizing i with
  | nil =>
    rw [List.modify_nil, List.modify_nil]
    exact .nil
  | @cons x y _ _ hxy hrest ih =>
    cases i with
    | zero => exact .cons (hfg x y hxy) hrest
    | succ i => exact .cons hxy (ih i)

end Forall₂

namespace Registry

/-! ### One registration -/

section Register

variable (r : Registry) (method : Text) (c : Constructor)

lemma find?_register (m : Text) :
    (r.register method c).find? m = if m = method then some c else r.find? m :=
  Keyed.lookup_put method m c r.entries

lemma methods_pairwise : r.methods.Pairwise (· < ·) :=
  List.pairwise_map.2 r.sorted

lemma methods_register :
    (r.register method c).methods = (Keyed.put method c r.entries).map (·.1) :=
  rfl

/-- A known method leaves the list of methods as it is. -/
lemma methods_register_of_mem (h : method ∈ r.methods) :
    (r.register method c).methods = r.methods := by
  rcases Keyed.put_cases r.sorted method c with
    ⟨front, w, back, hes, hput⟩ | ⟨front, back, hes, -, hfront, hback⟩
  · rw [methods_register, hput, methods, hes]
    simp only [List.map_append, List.map_cons]
  · -- the method would have to be less or greater than itself
    rw [methods, hes, List.map_append, List.mem_append] at h
    exfalso
    rcases h with h | h
    · obtain ⟨e, he, rfl⟩ := List.mem_map.1 h
      exact List.lt_irrefl _ (hfront e he)
    · obtain ⟨e, he, rfl⟩ := List.mem_map.1 h
      exact List.lt_irrefl _ (hback e he)

/-- A new method finds its place among the others. -/
lemma methods_register_of_not_mem (h : method ∉ r.methods) :
    ∃ front back, r.methods = front ++ back ∧
      (r.register method c).methods = front ++ method :: back ∧
      (∀ m ∈ front, m < method) ∧ ∀ m ∈ back, method < m := by
  rcases Keyed.put_cases r.sorted method c with
    ⟨front, w, back, hes, -⟩ | ⟨front, back, hes, hput, hfront, hback⟩
  · refine absurd ?_ h
    rw [methods, hes, List.map_append, List.map_cons]
    exact List.mem_append_right _ List.mem_cons_self
  · refine ⟨front.map (·.1), back.map (·.1), ?_, ?_, ?_, ?_⟩
    · rw [methods, hes, List.map_append]
    · rw [methods_register, hput, List.map_append, List.map_cons]
    · exact List.forall_mem_map.2 hfront
    · exact List.forall_mem_map.2 hback

end Register

/-! ### Histories -/

/-- The registrations that a registry has seen, the last one first. -/
abbrev History := List (Text × Constructor)

/-- The constructor that was registered last for a method. -/
def History.last? (h : History) (method : Text) : Option Constructor := h.lookup method

lemma History.last?_cons (method m : Text) (c : Constructor) (h : History) :
    History.last? ((method, c) :: h) m = if m = method then some c else h.last? m := by
  unfold History.last?
  rw [List.lookup_cons]
  by_cases hm : m = method
  · rw [if_pos hm, beq_iff_eq.2 hm]
  · rw [if_neg hm, beq_false_of_ne hm]

/-- The history of a registry that starts with the three methods or with none. -/
def History.start (builtin : Bool) : History :=
  if builtin then (Method.all.map fun m => (m.name, m.constructor)).reverse else []

/-- The registry finds what was registered last. -/
def Recalls (r : Registry) (h : History) : Prop := ∀ m, r.find? m = h.last? m

lemma Recalls.register {r : Registry} {h : History} (hr : Recalls r h) (method : Text)
    (c : Constructor) : Recalls (r.register method c) ((method, c) :: h) := by
  intro m
  rw [find?_register, History.last?_cons, hr m]

lemma recalls_start (b : Bool) : Recalls (if b then builtin else empty) (History.start b) := by
  have hempty : Recalls empty [] := fun _ => rfl
  cases b with
  | false => exact hempty
  | true =>
    exact ((hempty.register Method.contains.name Method.contains.constructor).register
      Method.endsWith.name Method.endsWith.constructor).register
      Method.regex.name Method.regex.constructor

/-- **What the observers of a registry say**, in terms of its history. -/
structure Mirrors (r : Registry) (h : History) : Prop where
  increasing : (r.methods.map Text.bytes).Pairwise (· < ·)
  listed : ∀ m, m ∈ r.methods ↔ m ∈ h.map (·.1)
  size : r.size = r.methods.length
  isEmpty : r.isEmpty = true ↔ r.methods = []
  contains : ∀ m, r.contains m = true ↔ m ∈ r.methods
  replaced : ∀ m c, (r.exchange m c).1 = h.last? m
  builds : ∀ m ∈ r.methods, ∃ c, h.last? m = some c ∧ ∀ p b, r.build m p b = c p b
  refuses : ∀ m, m ∉ r.methods → ∀ p b, r.build m p b = .error (.unknownMethod m r.methods)

/-- All observers follow from the lookup. -/
lemma Recalls.mirrors {r : Registry} {h : History} (hr : Recalls r h) : Mirrors r h where
  increasing := List.pairwise_map.2 (r.methods_pairwise.imp Text.bytes_lt_bytes)
  listed m := by
    rw [mem_methods, hr, History.last?, ← Option.isSome_iff_exists, List.lookup_isSome_iff,
      List.mem_map]
    simp only [beq_iff_eq]
    exact ⟨fun ⟨p, hp, hm⟩ => ⟨p, hp, hm.symm⟩, fun ⟨p, hp, hm⟩ => ⟨p, hp, hm.symm⟩⟩
  size := (List.length_map _).symm
  isEmpty := by rw [Registry.isEmpty, List.isEmpty_iff, methods, List.map_eq_nil_iff]
  contains _ := contains_iff
  replaced m _ := hr m
  builds m hm := by
    obtain ⟨c, hc⟩ := mem_methods.1 hm
    exact ⟨c, (hr m).symm.trans hc, build_of_find? hc⟩
  refuses m hm p b := by
    cases hc : r.find? m with
    | some c => exact absurd (mem_methods.2 ⟨c, hc⟩) hm
    | none =>
      unfold build
      rw [hc]

/-! ### Runs -/

/-- What is done with registries that are numbered in the order in which they came up. -/
inductive Act where
  /-- A new registry, with the three methods or with none. -/
  | start (builtin : Bool)
  /-- A copy of a registry. -/
  | copy (i : ℕ)
  /-- A registration. -/
  | register (i : ℕ) (method : Text) (c : Constructor)

namespace Act

/-- The registries after an act. -/
def apply (rs : List Registry) : Act → List Registry
  | start b => rs ++ [if b then builtin else empty]
  | copy i => rs ++ rs[i]?.toList
  | register i method c => rs.modify i fun r => (r.exchange method c).2

/-- The histories after an act: a copy has the history of what it copies. -/
def record (hs : List History) : Act → List History
  | start b => hs ++ [History.start b]
  | copy i => hs ++ hs[i]?.toList
  | register i method c => hs.modify i ((method, c) :: ·)

/-- The act registers nothing in the registry with the number. -/
def Spares (j : ℕ) : Act → Prop
  | register i _ _ => i ≠ j
  | _ => True

end Act

/-- The registries after acts, one behind the other. -/
def run (acts : List Act) : List Registry := acts.foldl Act.apply []

/-- The histories after acts. -/
def histories (acts : List Act) : List History := acts.foldl Act.record []

/-- Acts that register nothing in a registry leave it as it was. -/
lemma getElem?_apply {rs : List Registry} {j : ℕ} (hj : j < rs.length) {a : Act}
    (ha : a.Spares j) : (Act.apply rs a)[j]? = rs[j]? := by
  cases a with
  | start b => exact List.getElem?_append_left hj
  | copy i => exact List.getElem?_append_left hj
  | register i method c =>
    have hne : i ≠ j := ha
    rw [Act.apply, List.getElem?_modify]
    simp only [if_neg hne, id_map']

lemma length_le_apply (rs : List Registry) (a : Act) : rs.length ≤ (Act.apply rs a).length := by
  cases a with
  | start b => simp [Act.apply]
  | copy i => simp [Act.apply]
  | register i method c => simp [Act.apply]

lemma getElem?_foldl_apply {rs : List Registry} {j : ℕ} (hj : j < rs.length) {acts : List Act}
    (h : ∀ a ∈ acts, a.Spares j) : (acts.foldl Act.apply rs)[j]? = rs[j]? := by
  induction acts generalizing rs with
  | nil => rfl
  | cons a acts ih =>
    have hlen := length_le_apply rs a
    rw [List.foldl_cons, ih (Nat.lt_of_lt_of_le hj hlen) fun b hb => h b (List.mem_cons_of_mem _ hb),
      getElem?_apply hj (h a List.mem_cons_self)]

/-- **What an act keeps**: every registry recalls its history. -/
lemma forall₂_recalls_apply {rs : List Registry} {hs : List History}
    (h : List.Forall₂ Recalls rs hs) (a : Act) :
    List.Forall₂ Recalls (Act.apply rs a) (Act.record hs a) := by
  cases a with
  | start b => exact List.rel_append h (.cons (recalls_start b) .nil)
  | copy i => exact List.rel_append h (forall₂_getElem?_toList h i)
  | register i method c => exact forall₂_modify h (fun _ _ hr => hr.register method c) i

/-- What a run keeps, by induction on its acts. -/
lemma forall₂_recalls_foldl {rs : List Registry} {hs : List History}
    (h : List.Forall₂ Recalls rs hs) (acts : List Act) :
    List.Forall₂ Recalls (acts.foldl Act.apply rs) (acts.foldl Act.record hs) := by
  induction acts generalizing rs hs with
  | nil => exact h
  | cons a acts ih => exact ih (forall₂_recalls_apply h a)

/-- **Registries mirror their histories.** After every run of starts, copies and registrations,
all that is observed of a registry is what its own history says: the methods, in the order of
their bytes and each once; the constructor that counts for each of them, which is the one
registered last; and the refusal of all others. What is registered in other registries, copies or
not, changes nothing. -/
theorem registries_mirror_histories (acts : List Act) :
    List.Forall₂ Mirrors (run acts) (histories acts) ∧
      ∀ (j : ℕ) (more : List Act), j < (run acts).length → (∀ a ∈ more, a.Spares j) →
        (run (acts ++ more))[j]? = (run acts)[j]? := by
  constructor
  · exact (forall₂_recalls_foldl .nil acts).imp fun _ _ h => h.mirrors
  · intro j more hj h
    unfold run
    rw [List.foldl_append]
    exact getElem?_foldl_apply hj h

/-- A method that is registered in a copy is unknown to the original. -/
example :
    let odd : Constructor := fun p _ => .error (.invalidRegex p "odd")
    (run [.start true, .copy 0, .register 1 "odd" odd]).map methods =
      ([["contains", "endswith", "regex"], ["contains", "endswith", "odd", "regex"]] :
        List (List Text)) :=
  rfl

end Registry

end TextSieve
