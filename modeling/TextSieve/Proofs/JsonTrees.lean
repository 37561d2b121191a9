import TextSieve.Proofs.JsonRoundTrip

/-!
The trees that come of JSON texts. Integers that are read have 64 bits, the members of an object are
in order, and containers are nested no more deeply than the reader goes. So a tree that has been
read is legible if there is no binary number in it; each part of it is legible where its container
was opened, and all the more where nothing has been opened yet.
-/

namespace TextSieve

/-- There is no binary number in the tree. -/
inductive Value.FloatFree : Value → Prop
  | null : FloatFree .null
  | bool {b : Bool} : FloatFree (.bool b)
  | int {i : Int} : FloatFree (.int i)
  | str {t : Text} : FloatFree (.str t)
  | arr {items : List Value} (free : ∀ v ∈ items, FloatFree v) : FloatFree (.arr items)
  | obj {members : List (Text × Value)} (free : ∀ m ∈ members, FloatFree m.2) :
      FloatFree (.obj members)

namespace Json

/-! ### Trees that can be read -/

/-- The tree may come of a text where the given number of containers may still be opened. -/
inductive WellFormed : ℕ → Value → Prop
  | null {d : ℕ} : WellFormed d .null
  | bool {d : ℕ} {b : Bool} : WellFormed d (.bool b)
  | int {d : ℕ} {i : Int} (lower : -(Nat.pow 2 63 : ℕ) ≤ i) (upper : i < (Nat.pow 2 64 : ℕ)) :
      WellFormed d (.int i)
  | float {d : ℕ} {x : Binary64} : WellFormed d (.float x)
  | str {d : ℕ} {t : Text} : WellFormed d (.str t)
  | arr {d : ℕ} {items : List Value} (wellFormed : ∀ v ∈ items, WellFormed (d + 1) v) :
      WellFormed (d + 2) (.arr items)
  | obj {d : ℕ} {members : List (Text × Value)} (sorted : Keyed.Sorted members)
      (wellFormed : ∀ m ∈ members, WellFormed (d + 1) m.2) : WellFormed (d + 2) (.obj members)

/-- An object of well-formed members in any order is well formed. -/
lemma WellFormed.ofMembers {d : ℕ} {members : List (Text × Value)}
    (h : ∀ m ∈ members, WellFormed (d + 1) m.2) : WellFormed (d + 2) (.ofMembers members) := by
  refine .obj (Keyed.sorted_foldl_put List.Pairwise.nil members) fun m hm => ?_
  rcases Keyed.mem_of_mem_foldl_put hm with hm | hm
  · cases hm
  · exact h m hm

/-- A well-formed tree without binary numbers is legible. By induction on why it is well formed. -/
lemma WellFormed.legible {d : ℕ} {v : Value} (h : WellFormed d v) (hv : v.FloatFree) :
    Legible d v := by
  induction h with
  | null => exact .null
  | bool => exact .bool
  | int lower upper => exact .int lower upper
  | float => cases hv
  | str => exact .str
  | arr _ ih =>
    cases hv with
    | arr free => exact .arr fun v hv => ih v hv (free v hv)
  | obj sorted _ ih =>
    cases hv with
    | obj free => exact .obj sorted fun m hm => ih m hm (free m hm)

/-- What is legible inside a container is legible outside of it. -/
lemma Legible.succ {d : ℕ} {v : Value} (h : Legible d v) : Legible (d + 1) v := by
  induction h with
  | null => exact .null
  | bool => exact .bool
  | int lower upper => exact .int lower upper
  | str => exact .str
  | arr _ ih => exact .arr ih
  | obj sorted _ ih => exact .obj sorted ih

/-! ### What a reader yields -/

/-- If something is read, it has the property. -/
def Yields {α : Type} (P : α → Prop) : Except Fault (α × Text) → Prop
  | .error _ => True
  | .ok (a, _) => P a

namespace Yields

variable {α β : Type} {P : α → Prop} {Q : β → Prop}

lemma error (e : Fault) : Yields P (.error e) := trivial

lemma ok {a : α} (h : P a) (t : Text) : Yields P (.ok (a, t)) := h

lemma bind {r : Except Fault (α × Text)} {f : α × Text → Except Fault (β × Text)}
    (hr : Yields P r) (hf : ∀ a t, P a → Yields Q (f (a, t))) : Yields Q (r >>= f) := by
  cases r with
  | error e => exact error e
  | ok p => exact hf p.1 p.2 hr

/-- What comes first need not be known. -/
lemma bind_of_forall {γ : Type} (r : Except Fault γ) {f : γ → Except Fault (β × Text)}
    (hf : ∀ c, Yields Q (f c)) : Yields Q (r >>= f) := by
  cases r with
  | error e => exact error e
  | ok c => exact hf c

lemma map_const {a : α} (h : P a) (r : Except Fault Text) : Yields P (r.map fun t => (a, t)) := by
  cases r with
  | error e => exact error e
  | ok t => exact ok h t

/-- An item and those behind it. -/
lemma cons {r : Except Fault (α × Text)} {f : Text → Except Fault (List α × Text)}
    (hr : Yields P r) (hf : ∀ t, Yields (∀ a ∈ ·, P a) (f t)) :
    Yields (∀ a ∈ ·, P a) (do
      let (a, t) ← r
      let (as, t) ← f t
      .ok (a :: as, t)) :=
  hr.bind fun _ t ha => (hf t).bind fun _ t' has => ok (List.forall_mem_cons.2 ⟨ha, has⟩) t'

end Yields

/-! ### Numbers -/

section Numbers

variable {d : ℕ} (negative : Bool) (n : ℕ) (scale : Int) (s : Text)

lemma yields_finishFloat : Yields (WellFormed d) (finishFloat negative n scale s) := by
  unfold finishFloat
  split
  · exact .ok .float _
  · exact .error _

lemma yields_readExponentDigits (down : Bool) (acc : ℕ) :
    Yields (WellFormed d) (readExponentDigits negative n scale down acc s) := by
  fun_induction readExponentDigits negative n scale down acc s with
  | case1 => exact .error _
  | case2 => exact .ok .float _
  | case3 _ _ _ _ _ _ ih => exact ih
  | case4 => exact yields_finishFloat ..
  | case5 => exact yields_finishFloat ..

lemma yields_readExponent : Yields (WellFormed d) (readExponent negative n scale s) := by
  unfold readExponent
  dsimp only
  -- behind a plus, behind a minus, and without a sign
  split
  all_goals
    split
    · exact .error _
    · split
      · exact yields_readExponentDigits ..
      · exact .error _

lemma yields_readAfterFraction : Yields (WellFormed d) (readAfterFraction negative n scale s) := by
  unfold readAfterFraction
  split
  · exact yields_readExponent ..
  · exact yields_readExponent ..
  · exact yields_finishFloat ..

lemma yields_readFractionDigits :
    Yields (WellFormed d) (readFractionDigits negative n scale s) := by
  fun_induction readFractionDigits negative n scale s with
  | case1 _ _ _ _ _ _ _ ih => exact ih
  | case2 => exact yields_readAfterFraction ..
  | case3 => exact yields_readAfterFraction ..
  | case4 => exact yields_readAfterFraction ..

lemma yields_readFraction : Yields (WellFormed d) (readFraction negative n scale s) := by
  unfold readFraction
  split
  · exact .error _
  · split
    · exact yields_readFractionDigits ..
    · exact .error _

lemma yields_readLongInteger : Yields (WellFormed d) (readLongInteger negative n scale s) := by
  fun_induction readLongInteger negative n scale s with
  | case1 _ _ _ _ ih => exact ih
  | case2 => exact yields_readFraction ..
  | case3 => exact yields_readAfterFraction ..
  | case4 => exact yields_finishFloat ..

/-- An integer that fits is one of 64 bits, behind either sign. -/
lemma wellFormed_finishInteger {n : ℕ} (h : n < significandBound) :
    WellFormed d (finishInteger negative n) := by
  have hn : n < Nat.pow 2 64 := h
  unfold finishInteger
  split_ifs with _ _ hfits
  · exact .int (by omega) (by omega)
  · exact .float
  · exact .int (by omega) (by omega)
  · exact .float

section Integer

variable {n} (h : n < significandBound)
include h

lemma yields_readAfterInteger : Yields (WellFormed d) (readAfterInteger negative n s) := by
  unfold readAfterInteger
  split
  · exact yields_readFraction ..
  · exact yields_readExponent ..
  · exact yields_readExponent ..
  · exact .ok (wellFormed_finishInteger negative h) _

lemma yields_readIntegerDigits : Yields (WellFormed d) (readIntegerDigits negative n s) := by
  fun_induction readIntegerDigits negative n s with
  | case1 _ _ _ _ _ hnext ih => exact ih hnext
  | case2 => exact yields_readLongInteger ..
  | case3 => exact yields_readAfterInteger _ _ h
  | case4 => exact yields_readAfterInteger _ _ h

end Integer

lemma digitValue_lt {c : Char} (h : c.isDigit = true) : digitValue c < significandBound := by
  rw [Char.isDigit_iff_toNat] at h
  have hnine : c.toNat ≤ 57 := h.2
  have hbound : 57 < significandBound := by decide
  unfold digitValue
  omega

lemma yields_readNumber : Yields (WellFormed d) (readNumber negative s) := by
  unfold readNumber
  split
  · exact .error _
  · split
    · split
      · exact .error _
      · exact yields_readAfterInteger _ _ (by decide)
    · exact yields_readAfterInteger _ _ (by decide)
  · split
    · next hc => exact yields_readIntegerDigits _ _ (digitValue_lt hc)
    · exact .error _

end Numbers

/-! ### Trees -/

/-- With the given fuel, whatever is read is well formed. -/
structure ReadsWell (fuel : ℕ) : Prop where
  value (d : ℕ) (s : Text) : Yields (WellFormed d) (readValue fuel d s)
  items (d : ℕ) (first : Bool) (s : Text) :
    Yields (∀ v ∈ ·, WellFormed d v) (readItems fuel d first s)
  members (d : ℕ) (first : Bool) (s : Text) :
    Yields (∀ m ∈ ·, WellFormed d m.2) (readMembers fuel d first s)
  member (d : ℕ) (s : Text) : Yields (WellFormed d ·.2) (readMember fuel d s)

namespace ReadsWell

variable {fuel : ℕ}

lemma zero : ReadsWell 0 where
  value d s := by
    rw [readValue]
    exact .error _
  items d first s := by
    rw [readItems]
    exact .error _
  members d first s := by
    rw [readMembers]
    exact .error _
  member d s := by
    rw [readMember]
    exact .error _

lemma value_succ (h : ReadsWell fuel) (d : ℕ) (s : Text) :
    Yields (WellFormed d) (readValue (fuel + 1) d s) := by
  rw [readValue]
  split
  · exact .error _
  · exact .map_const .null _
  · exact .map_const .bool _
  · exact .map_const .bool _
  · exact yields_readNumber ..
  · exact .bind_of_forall _ fun _ => .ok .str _
  · split
    · exact .error _
    · exact .error _
    · next hpos =>
      obtain ⟨d, rfl⟩ := Nat.exists_eq_succ_of_ne_zero hpos
      exact (h.items (d + 1) true _).bind fun _ t hitems => .ok (.arr hitems) t
  · split
    · exact .error _
    · exact .error _
    · next hpos =>
      obtain ⟨d, rfl⟩ := Nat.exists_eq_succ_of_ne_zero hpos
      exact (h.members (d + 1) true _).bind fun _ t hmembers => .ok (.ofMembers hmembers) t
  · split
    · exact yields_readNumber ..
    · exact .error _

lemma items_succ (h : ReadsWell fuel) (d : ℕ) (first : Bool) (s : Text) :
    Yields (∀ v ∈ ·, WellFormed d v) (readItems (fuel + 1) d first s) := by
  have hcons (t : Text) := (h.value d t).cons (h.items d false)
  rw [readItems]
  split
  · exact .error _
  · exact .ok (List.forall_mem_nil _) _
  · split
    · exact hcons _
    · split
      · split
        · exact .error _
        · exact .error _
        · exact hcons _
      · exact .error _

lemma members_succ (h : ReadsWell fuel) (d : ℕ) (first : Bool) (s : Text) :
    Yields (∀ m ∈ ·, WellFormed d m.2) (readMembers (fuel + 1) d first s) := by
  have hcons (t : Text) := (h.member d t).cons (h.members d false)
  rw [readMembers]
  split
  · exact .error _
  · exact .ok (List.forall_mem_nil _) _
  · split
    · split
      · exact hcons _
      · exact .error _
    · split
      · split
        · exact .error _
        · exact hcons _
        · exact .error _
        · exact .error _
      · exact .error _

lemma member_succ (h : ReadsWell fuel) (d : ℕ) (s : Text) :
    Yields (WellFormed d ·.2) (readMember (fuel + 1) d s) := by
  rw [readMember]
  refine .bind_of_forall _ fun key => .bind_of_forall _ fun t => ?_
  exact (h.value d t).bind fun _ t hv => .ok hv t

end ReadsWell

/-- Whatever is read is well formed. By induction on the fuel, for all parts of a tree at once. -/
lemma readsWell (fuel : ℕ) : ReadsWell fuel := by
  induction fuel with
  | zero => exact .zero
  | succ fuel ih => exact ⟨ih.value_succ, ih.items_succ, ih.members_succ, ih.member_succ⟩

/-- **The tree of a JSON text is well formed.** -/
theorem wellFormed_of_read {s : Text} {v : Value} (h : read s = .ok v) :
    WellFormed maxDepth v := by
  have hvalue := (readsWell (3 * s.length + 3)).value maxDepth s
  unfold read readAll at h
  cases hread : readValue (3 * s.length + 3) maxDepth s with
  | error e =>
    rw [hread] at h
    cases h
  | ok p =>
    obtain ⟨w, t⟩ := p
    rw [hread] at h hvalue
    simp only [bind, Except.bind] at h
    split at h
    · cases h
      exact hvalue
    · cases h

end Json

end TextSieve
