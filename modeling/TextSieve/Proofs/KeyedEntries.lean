import Mathlib.Data.List.Perm.Basic
import Mathlib.Data.List.Nodup
import Mathlib.Tactic.Lemma
import Mathlib.Tactic.SplitIfs
import TextSieve.Keyed

/-!
Entries that are put into a list in the order of its keys. The list is a finite map: a lookup finds
what was put in last under a key, and entries with different keys may be put in in any order.
-/

namespace TextSieve

namespace Keyed

variable {α : Type}

/-- A lookup finds what was put in last. -/
lemma lookup_put (key k : Text) (v : α) (es : List (Text × α)) :
    (put key v es).lookup k = if k = key then some v else es.lookup k := by
  induction es with
  | nil =>
    rw [put, List.lookup_cons]
    by_cases h : k = key
    · rw [if_pos h, beq_iff_eq.2 h]
    · rw [if_neg h, beq_false_of_ne h]
  | cons e es ih =>
    obtain ⟨k', w⟩ := e
    by_cases h : k = key
    · rw [if_pos h] at ih ⊢
      unfold put
      split_ifs with hlt heq
      · rw [List.lookup_cons, beq_iff_eq.2 h]
      · rw [List.lookup_cons, beq_iff_eq.2 h]
      · have hne : k ≠ k' := fun hk => heq (h.symm.trans hk)
        rw [List.lookup_cons, beq_false_of_ne hne, ih]
    · rw [if_neg h] at ih ⊢
      unfold put
      split_ifs with hlt heq
      · rw [List.lookup_cons, beq_false_of_ne h]
      · have hne : k ≠ k' := fun hk => h (hk.trans heq.symm)
        rw [List.lookup_cons, List.lookup_cons, beq_false_of_ne h, beq_false_of_ne hne]
      · rw [List.lookup_cons, List.lookup_cons, ih]

/-- An entry that is put in either replaces one with its key, or comes between those with lesser
keys and those with greater ones. -/
lemma put_cases {es : List (Text × α)} (h : Sorted es) (key : Text) (v : α) :
    (∃ front w back, es = front ++ (key, w) :: back ∧ put key v es = front ++ (key, v) :: back) ∨
      ∃ front back, es = front ++ back ∧ put key v es = front ++ (key, v) :: back ∧
        (∀ e ∈ front, e.1 < key) ∧ ∀ e ∈ back, key < e.1 := by
  induction es with
  | nil => exact Or.inr ⟨[], [], rfl, rfl, nofun, nofun⟩
  | cons e es ih =>
    obtain ⟨k, w⟩ := e
    obtain ⟨hk, hes⟩ := List.pairwise_cons.1 h
    unfold put
    split_ifs with hlt heq
    · refine Or.inr ⟨[], (k, w) :: es, rfl, rfl, nofun, fun e he => ?_⟩
      rcases List.mem_cons.1 he with rfl | he
      · exact hlt
      · exact List.lt_trans hlt (hk e he)
    · exact Or.inl ⟨[], w, es, by rw [heq]; rfl, rfl⟩
    · rcases ih hes with ⟨front, w', back, rfl, hput⟩ | ⟨front, back, rfl, hput, hfront, hback⟩
      · exact Or.inl ⟨(k, w) :: front, w', back, rfl, by rw [hput]; rfl⟩
      · refine Or.inr ⟨(k, w) :: front, back, rfl, by rw [hput]; rfl, fun e he => ?_, hback⟩
        rcases List.mem_cons.1 he with rfl | he
        · exact lt_of_not_lt_of_ne hlt heq
        · exact hfront e he

/-! ### The order of putting in -/

section Cons

variable {key k : Text} (v w : α) (es : List (Text × α))

lemma put_cons_of_lt (h : key < k) : put key v ((k, w) :: es) = (key, v) :: (k, w) :: es := by
  rw [put, if_pos h]

lemma put_cons_self : put k v ((k, w) :: es) = (k, v) :: es := by
  rw [put, if_neg (List.lt_irrefl k), if_pos rfl]

lemma put_cons_of_gt (h : k < key) : put key v ((k, w) :: es) = (k, w) :: put key v es := by
  have hne : key ≠ k := by
    rintro rfl
    exact List.lt_irrefl _ h
  rw [put, if_neg (List.lt_asymm h), if_neg hne]

end Cons

/-- Of two entries with different keys either may be put in first. By induction on the list; the
place of the lesser key does not lie behind that of the greater one. -/
lemma put_comm {a b : Text} (hab : a ≠ b) (v w : α) (es : List (Text × α)) :
    put a v (put b w es) = put b w (put a v es) := by
  wlog hlt : a < b generalizing a b v w
  · exact (this hab.symm w v (lt_of_not_lt_of_ne hlt hab)).symm
  induction es with
  | nil => rw [put, put_cons_of_lt v w [] hlt, put, put_cons_of_gt w v [] hlt, put]
  | cons e es ih =>
    obtain ⟨k, x⟩ := e
    by_cases hbk : b < k
    · rw [put_cons_of_lt w x es hbk, put_cons_of_lt v w _ hlt,
        put_cons_of_lt v x es (List.lt_trans hlt hbk), put_cons_of_gt w v _ hlt,
        put_cons_of_lt w x es hbk]
    · by_cases hkb : b = k
      · subst hkb
        rw [put_cons_self, put_cons_of_lt v w es hlt, put_cons_of_lt v x es hlt,
          put_cons_of_gt w v _ hlt, put_cons_self]
      · have hgt : k < b := lt_of_not_lt_of_ne hbk hkb
        rw [put_cons_of_gt w x es hgt]
        by_cases hak : a < k
        · rw [put_cons_of_lt v x _ hak, put_cons_of_lt v x es hak, put_cons_of_gt w v _ hlt,
            put_cons_of_gt w x es hgt]
        · by_cases hka : a = k
          · subst hka
            rw [put_cons_self, put_cons_self, put_cons_of_gt w v es hlt]
          · have hga : k < a := lt_of_not_lt_of_ne hak hka
            rw [put_cons_of_gt v x _ hga, put_cons_of_gt v x es hga, put_cons_of_gt w x _ hgt, ih]

/-- Entries with different keys may be put in in any order. -/
lemma foldl_put_perm {xs ys : List (Text × α)} (h : xs.Perm ys) (hn : (xs.map (·.1)).Nodup)
    (es : List (Text × α)) :
    xs.foldl (fun acc e => put e.1 e.2 acc) es = ys.foldl (fun acc e => put e.1 e.2 acc) es := by
  refine h.foldl_eq' (fun x hx y hy z => ?_) es
  by_cases hxy : x = y
  · rw [hxy]
  · have hkeys : x.1 ≠ y.1 := fun hk => hxy (List.inj_on_of_nodup_map hn hx hy hk)
    exact put_comm hkeys.symm y.2 x.2 z

end Keyed

end TextSieve
