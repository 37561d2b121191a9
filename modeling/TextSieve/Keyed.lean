import TextSieve.Text.Basic

/-!
Lists of entries in increasing order of their keys. Putting an entry in keeps the order, and a
lookup finds what was put in last under a key.
-/

namespace TextSieve.Keyed

variable {α : Type}

/-- The keys increase from entry to entry. -/
def Sorted (es : List (Text × α)) : Prop := es.Pairwise fun a b => a.1 < b.1

instance (es : List (Text × α)) : Decidable (Sorted es) :=
  inferInstanceAs (Decidable (es.Pairwise fun a b => a.1 < b.1))

/-- Puts an entry at its place; an entry with the same key is replaced. -/
def put (key : Text) (v : α) : List (Text × α) → List (Text × α)
  | [] => [(key, v)]
  | (k, w) :: es =>
    if key < k then (key, v) :: (k, w) :: es
    else if key = k then (key, v) :: es
    else (k, w) :: put key v es

/-- Of two different texts one is less than the other. -/
theorem lt_of_not_lt_of_ne {a b : Text} (h : ¬a < b) (hne : a ≠ b) : b < a :=
  Classical.byContradiction fun h' => hne (List.le_antisymm (List.not_lt.1 h') (List.not_lt.1 h))

theorem mem_put {key : Text} {v : α} {es : List (Text × α)} {e : Text × α}
    (h : e ∈ put key v es) : e = (key, v) ∨ e ∈ es := by
  induction es with
  | nil => simpa [put] using h
  | cons f es ih =>
    obtain ⟨k, w⟩ := f
    simp only [put] at h
    split at h
    · simpa using h
    · split at h
      · rcases List.mem_cons.1 h with h | h
        · exact .inl h
        · exact .inr (List.mem_cons_of_mem _ h)
      · rcases List.mem_cons.1 h with h | h
        · exact .inr (h ▸ List.mem_cons_self)
        · exact (ih h).imp_right (List.mem_cons_of_mem _)

/-- Putting an entry in keeps the order. -/
theorem Sorted.put {es : List (Text × α)} (h : Sorted es) (key : Text) (v : α) :
    Sorted (put key v es) := by
  induction es with
  | nil => simp [Keyed.put, Sorted]
  | cons f es ih =>
    obtain ⟨k, w⟩ := f
    obtain ⟨hk, hes⟩ := List.pairwise_cons.1 h
    simp only [Keyed.put]
    split
    · next hlt =>
      refine List.pairwise_cons.2 ⟨fun e he => ?_, h⟩
      rcases List.mem_cons.1 he with rfl | he
      · exact hlt
      · exact List.lt_trans hlt (hk e he)
    · next hlt =>
      split
      · next heq => subst heq; exact List.pairwise_cons.2 ⟨hk, hes⟩
      · next hne =>
        refine List.pairwise_cons.2 ⟨fun e he => ?_, ih hes⟩
        rcases mem_put he with rfl | he
        · exact lt_of_not_lt_of_ne hlt hne
        · exact hk e he

end TextSieve.Keyed
