import TextSieve.Proofs.SearchMeaning
import TextSieve.Proofs.SetOperations
import TextSieve.Regex.Form

/-!
Simplifying changes no match. What is put together from forms leads from one place to another just
if the forms do, one after the other in a sequence, any of them in a choice, and round by round in a
repetition: however sequences are opened, sets united, and beginnings taken out of choices.
-/

namespace TextSieve.Regex

/-- It does not matter whether a second step is taken together with the first or with the third. -/
lemma exists_steps_assoc {P : ℕ → Prop} {Q : ℕ → ℕ → Prop} {R : ℕ → Prop} :
    (∃ i, P i ∧ ∃ j, Q i j ∧ R j) ↔ ∃ j, (∃ i, P i ∧ Q i j) ∧ R j := by
  constructor
  · rintro ⟨i, hi, j, hij, hj⟩
    exact ⟨j, ⟨i, hi, hij⟩, hj⟩
  · rintro ⟨j, ⟨i, hi, hij⟩, hj⟩
    exact ⟨i, hi, j, hij, hj⟩

lemma leads_catAll_cons {text : Text} {i k : ℕ} {e : Expr Leaf} {es : List (Expr Leaf)} :
    (Expr.catAll (e :: es)).Leads text i k ↔
      ∃ j, e.Leads text i j ∧ (Expr.catAll es).Leads text j k := by
  cases es with
  | nil => simp [Expr.catAll, Expr.Leads]
  | cons e' es => rfl

lemma leads_altAll_cons {text : Text} {i j : ℕ} {e : Expr Leaf} {es : List (Expr Leaf)} :
    (Expr.altAll (e :: es)).Leads text i j ↔
      e.Leads text i j ∨ (Expr.altAll es).Leads text i j := by
  cases es with
  | nil => simp [Expr.altAll, Expr.Leads, CharSet.contains, CharSet.has, CharSet.empty,
      CharSet.containsFrom]
  | cons e' es => rfl

namespace Form

/-- The form leads from one place in the text to another. -/
def Leads (text : Text) (f : Form) (i j : ℕ) : Prop := f.expr.Leads text i j

variable {text : Text} {i j k : ℕ} {f g : Form} {fs gs : List Form}

/-! ### Sequences -/

lemma leads_concat_nil : (concat []).Leads text i j ↔ i = j := Iff.rfl

lemma leads_concat_singleton : (concat [f]).Leads text i j ↔ f.Leads text i j := Iff.rfl

lemma leads_concat_cons : (concat (f :: fs)).Leads text i k ↔
    ∃ j, f.Leads text i j ∧ (concat fs).Leads text j k := leads_catAll_cons

lemma leads_concat_cons_congr
    (h : ∀ i j, (concat fs).Leads text i j ↔ (concat gs).Leads text i j) :
    (concat (f :: fs)).Leads text i j ↔ (concat (f :: gs)).Leads text i j := by
  simp only [leads_concat_cons, h]

lemma leads_concat_append : (concat (fs ++ gs)).Leads text i k ↔
    ∃ j, (concat fs).Leads text i j ∧ (concat gs).Leads text j k := by
  induction fs generalizing i with
  | nil => simp [leads_concat_nil]
  | cons f fs ih =>
    simp only [List.cons_append, leads_concat_cons, ih]
    exact exists_steps_assoc

lemma leads_literal_cons {c : Char} {t : Text} : (literal (c :: t)).Leads text i k ↔
    ∃ j, (literal [c]).Leads text i j ∧ (literal t).Leads text j k := leads_catAll_cons

lemma leads_literal_append {s t : Text} : (literal (s ++ t)).Leads text i k ↔
    ∃ j, (literal s).Leads text i j ∧ (literal t).Leads text j k := by
  induction s generalizing i with
  | nil => exact (exists_eq_left' (p := fun j => (literal t).Leads text j k)).symm
  | cons c s ih =>
    rw [List.cons_append, leads_literal_cons]
    simp only [ih, leads_literal_cons (t := s)]
    exact exists_steps_assoc

lemma leads_concat_parts : (concat f.parts).Leads text i j ↔ f.Leads text i j := by
  cases f <;> rfl

lemma leads_concat_flatMap_parts :
    (concat (fs.flatMap parts)).Leads text i j ↔ (concat fs).Leads text i j := by
  induction fs generalizing i with
  | nil => rfl
  | cons f fs ih =>
    rw [List.flatMap_cons, leads_concat_append, leads_concat_cons]
    simp only [leads_concat_parts, ih]

lemma leads_concat_push :
    (concat (push f fs)).Leads text i j ↔ (concat (f :: fs)).Leads text i j := by
  unfold push
  split
  · rw [leads_concat_cons]
    exact (exists_eq_left' (p := fun k => (concat fs).Leads text k j)).symm
  · simp only [leads_concat_cons, leads_literal_append]
    exact exists_steps_assoc.symm
  · rfl

lemma leads_concat_foldr_push :
    (concat (fs.foldr push [])).Leads text i j ↔ (concat fs).Leads text i j := by
  induction fs generalizing i j with
  | nil => rfl
  | cons f fs ih =>
    rw [List.foldr_cons, leads_concat_push]
    exact leads_concat_cons_congr fun _ _ => ih

/-- **A sequence leads where its forms do, one after the other.** -/
theorem leads_sequence :
    (sequence fs).Leads text i j ↔ (concat fs).Leads text i j := by
  rw [← leads_concat_flatMap_parts, ← leads_concat_foldr_push]
  unfold sequence
  split
  · next h => rw [h]; rfl
  · next h => rw [h]; rfl
  · rfl

/-! ### Sets -/

lemma eq_single_of_single? {s : CharSet} {c : Char} (h : single? s = some c) : s = .single c := by
  unfold single? at h
  split at h
  · next a b hflips =>
    split_ifs at h with hab
    rw [Bool.and_eq_true, decide_eq_true_iff, decide_eq_true_iff] at hab
    obtain ⟨rfl, ha⟩ := hab
    cases h
    ext1
    rw [hflips, CharSet.flips_single, ha]
  · cases h

lemma ofSet_single {unicode : Bool} {c : Char} : ofSet unicode (.single c) = literal [c] := by
  have h : single? (.single c) = some c := by
    unfold single?
    rw [CharSet.flips_single]
    simp
  rw [ofSet, h]

lemma leads_ofSet {unicode : Bool} {s : CharSet} :
    (ofSet unicode s).Leads text i j ↔ (chars unicode s).Leads text i j := by
  unfold ofSet
  split
  · next h =>
    rw [eq_single_of_single? h]
    rfl
  · rfl

lemma leads_chars_union {u v w : Bool} {s t : CharSet} : (chars u (s.union t)).Leads text i j ↔
    (chars v s).Leads text i j ∨ (chars w t).Leads text i j := by
  change (∃ c, _ ∧ _ ∧ _) ↔ (∃ c, _ ∧ _ ∧ _) ∨ ∃ c, _ ∧ _ ∧ _
  simp only [CharSet.contains_union, Bool.or_eq_true, ← exists_or]
  refine exists_congr fun c => ?_
  tauto

/-! ### Choices -/

lemma leads_alt_nil : ¬ (alt []).Leads text i j := by
  rintro ⟨c, -, h, -⟩
  cases h

lemma leads_alt : (alt fs).Leads text i j ↔ ∃ f ∈ fs, f.Leads text i j := by
  induction fs with
  | nil => simp [leads_alt_nil]
  | cons f fs ih =>
    rw [List.exists_mem_cons_iff, ← ih]
    exact leads_altAll_cons

lemma exists_branches_leads : (∃ g ∈ f.branches, g.Leads text i j) ↔ f.Leads text i j := by
  cases f with
  | alt fs => exact leads_alt.symm
  | _ => simp [branches]

lemma exists_flatMap_branches_leads :
    (∃ g ∈ fs.flatMap branches, g.Leads text i j) ↔ ∃ f ∈ fs, f.Leads text i j := by
  constructor
  · rintro ⟨g, hg, hlead⟩
    obtain ⟨f, hf, hgf⟩ := List.mem_flatMap.1 hg
    exact ⟨f, hf, exists_branches_leads.1 ⟨g, hgf, hlead⟩⟩
  · rintro ⟨f, hf, hlead⟩
    obtain ⟨g, hg, hlead⟩ := exists_branches_leads.2 hlead
    exact ⟨g, List.mem_flatMap.2 ⟨f, hf, hg⟩, hlead⟩

/-- Where each form leads as a set does, all together lead as the union does. -/
lemma leads_union_of_mapM {set : Form → Option CharSet} {ss : List CharSet}
    (hset : ∀ f s, set f = some s → (f.Leads text i j ↔ (chars true s).Leads text i j))
    (h : fs.mapM set = some ss) :
    (chars true (ss.foldr .union .empty)).Leads text i j ↔ ∃ f ∈ fs, f.Leads text i j := by
  induction fs generalizing ss with
  | nil =>
    cases h
    exact iff_of_false leads_alt_nil (by simp)
  | cons f fs ih =>
    simp only [List.mapM_cons, Option.bind_eq_bind, Option.bind_eq_some_iff] at h
    obtain ⟨s, hs, ss, hss, h⟩ := h
    cases h
    rw [List.foldr_cons, leads_chars_union (v := true) (w := true), ih hss, ← hset f s hs,
      List.exists_mem_cons_iff]

lemma leads_letter? {s : CharSet} (h : letter? f = some s) :
    f.Leads text i j ↔ (chars true s).Leads text i j := by
  unfold letter? at h
  split at h
  · cases h
    rfl
  · cases h

lemma leads_set? {s : CharSet} (h : set? f = some s) :
    f.Leads text i j ↔ (chars true s).Leads text i j := by
  unfold set? at h
  split at h
  · cases h
    rfl
  · cases h

lemma leads_join : (join fs).Leads text i j ↔ ∃ f ∈ fs, f.Leads text i j := by
  rw [← exists_flatMap_branches_leads]
  unfold join
  split
  · next f h =>
    rw [h]
    simp
  · split
    · next ss h =>
      rw [leads_ofSet]
      rcases Option.or_eq_some_iff.1 h with h | ⟨-, h⟩
      · exact leads_union_of_mapM (fun _ _ => leads_letter?) h
      · exact leads_union_of_mapM (fun _ _ => leads_set?) h
    · exact leads_alt

mutual

/-- Forms that are found to be the same are equal. -/
lemma eq_of_same : ∀ {f g : Form}, same f g = true → f = g := by
  intro f g h
  cases f with
  | empty =>
    cases g with
    | empty => rfl
    | _ => cases h
  | literal s =>
    cases g with
    | literal t => rw [eq_of_beq h]
    | _ => cases h
  | chars u s =>
    cases g with
    | chars v t =>
      obtain ⟨hu, hs⟩ := Bool.and_eq_true_iff.1 h
      rw [eq_of_beq hu, eq_of_beq hs]
    | _ => cases h
  | look k =>
    cases g with
    | look l => rw [eq_of_beq h]
    | _ => cases h
  | rep f min max greedy =>
    cases g with
    | rep g min' max' greedy' =>
      obtain ⟨h, hgreedy⟩ := Bool.and_eq_true_iff.1 h
      obtain ⟨h, hmax⟩ := Bool.and_eq_true_iff.1 h
      obtain ⟨hf, hmin⟩ := Bool.and_eq_true_iff.1 h
      rw [eq_of_same hf, eq_of_beq hmin, eq_of_beq hmax, eq_of_beq hgreedy]
    | _ => cases h
  | capture f => cases h
  | concat fs =>
    cases g with
    | concat gs => rw [eq_of_sameAll h]
    | _ => cases h
  | alt fs =>
    cases g with
    | alt gs => rw [eq_of_sameAll h]
    | _ => cases h

lemma eq_of_sameAll : ∀ {fs gs : List Form}, sameAll fs gs = true → fs = gs
  | [], [], _ => rfl
  | f :: fs, g :: gs, h => by
    obtain ⟨hf, hfs⟩ := Bool.and_eq_true_iff.1 h
    rw [eq_of_same hf, eq_of_sameAll hfs]

end

lemma sharedPrefix_isPrefix : sharedPrefix fs gs <+: fs ∧ sharedPrefix fs gs <+: gs := by
  fun_induction sharedPrefix fs gs with
  | case1 f fs g gs h ih =>
    obtain rfl := eq_of_same h
    exact ⟨List.cons_prefix_cons.2 ⟨rfl, ih.1⟩, List.cons_prefix_cons.2 ⟨rfl, ih.2⟩⟩
  | case2 | case3 => simp

lemma foldl_sharedPrefix_isPrefix (p fs : List Form) :
    fs.foldl (fun p g => sharedPrefix p g.inner) p <+: p ∧
      ∀ f ∈ fs, fs.foldl (fun p g => sharedPrefix p g.inner) p <+: f.inner := by
  induction fs generalizing p with
  | nil => exact ⟨List.prefix_rfl, List.forall_mem_nil _⟩
  | cons f fs ih =>
    obtain ⟨hp, hfs⟩ := ih (sharedPrefix p f.inner)
    exact ⟨hp.trans sharedPrefix_isPrefix.1,
      List.forall_mem_cons.2 ⟨hp.trans sharedPrefix_isPrefix.2, hfs⟩⟩

/-- What is taken out of a choice is what each of its branches begins with. -/
lemma commonPrefix_isPrefix (hf : f ∈ fs) : commonPrefix fs <+: f.inner := by
  cases fs with
  | nil => cases hf
  | cons g fs =>
    have h := foldl_sharedPrefix_isPrefix g.inner fs
    rcases List.mem_cons.1 hf with rfl | hf
    · exact h.1
    · exact h.2 f hf

/-- A sequence leads as its beginning and the rest do. -/
lemma leads_of_prefix_inner {p : List Form} (hp : p ≠ []) (h : p <+: f.inner) :
    f.Leads text i k ↔ ∃ j, (concat p).Leads text i j ∧
      (sequence (f.inner.drop p.length)).Leads text j k := by
  obtain ⟨rest, hrest⟩ := h
  cases f with
  | concat fs =>
    change p ++ rest = fs at hrest
    subst hrest
    rw [leads_concat_append]
    simp only [leads_sequence, inner, List.drop_left]
  | _ => simp [inner, hp] at hrest

/-- **A choice leads where any of its forms does.** -/
theorem leads_choice : (choice fs).Leads text i j ↔ ∃ f ∈ fs, f.Leads text i j := by
  rw [← exists_flatMap_branches_leads]
  unfold choice
  dsimp only
  split
  · exact leads_join
  · next hp =>
    have hsplit : ∀ f ∈ fs.flatMap branches, f.Leads text i j ↔
        ∃ k, (concat (commonPrefix (fs.flatMap branches))).Leads text i k ∧
          (sequence (f.inner.drop (commonPrefix (fs.flatMap branches)).length)).Leads text k j :=
      fun f hf => leads_of_prefix_inner hp (commonPrefix_isPrefix hf)
    simp only [leads_sequence, leads_concat_append, leads_concat_singleton, leads_join,
      List.mem_map]
    constructor
    · rintro ⟨k, hk, _, ⟨f, hf, rfl⟩, hj⟩
      exact ⟨f, hf, (hsplit f hf).2 ⟨k, hk, hj⟩⟩
    · rintro ⟨f, hf, hlead⟩
      obtain ⟨k, hk, hj⟩ := (hsplit f hf).1 hlead
      exact ⟨k, hk, _, ⟨f, hf, rfl⟩, hj⟩

-- What both branches begin with stands in front of the choice.
example :
    choice [concat [look .start, literal ['a', 'b']], concat [look .start, literal ['b', 'c']]] =
      concat [look .start, alt [literal ['a', 'b'], literal ['b', 'c']]] := rfl

/-- What a choice finds is what one of its forms finds. -/
theorem search_choice : (choice fs).expr.search text = fs.any fun f => f.expr.search text := by
  rw [Bool.eq_iff_iff, List.any_eq_true]
  simp only [Expr.search_iff]
  constructor
  · rintro ⟨i, hi, j, hj⟩
    obtain ⟨f, hf, hlead⟩ := leads_choice.1 hj
    exact ⟨f, hf, i, hi, j, hlead⟩
  · rintro ⟨f, hf, i, hi, j, hlead⟩
    exact ⟨i, hi, j, leads_choice.2 ⟨f, hf, hlead⟩⟩

/-! ### Repetitions -/

lemma leads_rep {min : ℕ} {max : Option ℕ} {greedy : Bool} :
    (rep f min max greedy).Leads text i j ↔
      ∃ n, (∀ m ∈ max, n ≤ m - min) ∧ Times (f.Leads text) (min + n) i j := Iff.rfl

lemma eq_of_leads_concat (h : ∀ f ∈ fs, ∀ {i j : ℕ}, f.Leads text i j → j = i)
    (hlead : (concat fs).Leads text i j) : j = i := by
  induction fs generalizing i with
  | nil => exact hlead.symm
  | cons f fs ih =>
    obtain ⟨hf, hfs⟩ := List.forall_mem_cons.1 h
    obtain ⟨k, hk, hj⟩ := leads_concat_cons.1 hlead
    rw [ih hfs hj, hf hk]

mutual

/-- A form without characters in its matches leads nowhere else. By induction on the form. -/
lemma eq_of_alwaysEmpty : ∀ {f : Form}, f.alwaysEmpty = true →
    ∀ {i j : ℕ}, f.Leads text i j → j = i := by
  intro f h i j hlead
  cases f with
  | empty => exact hlead.symm
  | literal t =>
    obtain rfl := List.isEmpty_iff.1 h
    exact hlead.symm
  | chars => cases h
  | look => exact hlead.2.2.symm
  | rep f min max =>
    obtain ⟨n, -, hn⟩ := hlead
    have hf := (Bool.and_eq_true_iff.1 h).2
    refine times_mem (s := {j | j = i}) (fun k hk j hkj => ?_) rfl hn
    exact (eq_of_alwaysEmpty hf hkj).trans hk
  | capture f => exact eq_of_alwaysEmpty (f := f) h hlead
  | concat fs => exact eq_of_leads_concat (eq_of_allEmpty h) hlead
  | alt fs =>
    obtain ⟨f, hf, hlead⟩ := leads_alt.1 hlead
    exact eq_of_allEmpty h f hf hlead

lemma eq_of_allEmpty : ∀ {fs : List Form}, allEmpty fs = true →
    ∀ f ∈ fs, ∀ {i j : ℕ}, f.Leads text i j → j = i
  | [], _ => List.forall_mem_nil _
  | f :: fs, h => by
    obtain ⟨hf, hfs⟩ := Bool.and_eq_true_iff.1 h
    exact List.forall_mem_cons.2 ⟨eq_of_alwaysEmpty hf, eq_of_allEmpty hfs⟩

end

lemma times_of_eq {R : ℕ → ℕ → Prop} (hR : ∀ {i j}, R i j → j = i) {n : ℕ} :
    Times R n i j ↔ i = j ∧ (n = 0 ∨ R i i) := by
  induction n generalizing i with
  | zero => simp [Times]
  | succ n ih =>
    rw [Times]
    constructor
    · rintro ⟨k, hk, hj⟩
      obtain rfl := hR hk
      exact ⟨(ih.1 hj).1, Or.inr hk⟩
    · rintro ⟨rfl, h⟩
      have hi := h.resolve_left (Nat.succ_ne_zero n)
      exact ⟨i, hi, ih.2 ⟨rfl, Or.inr hi⟩⟩

/-- Any number of rounds in one place comes to one round or to none. -/
lemma leads_rep_of_alwaysEmpty {min : ℕ} {max : Option ℕ} {greedy : Bool}
    (h : f.alwaysEmpty = true) :
    (rep f min max greedy).Leads text i j ↔ i = j ∧ (min = 0 ∨ f.Leads text i i) := by
  simp only [leads_rep, times_of_eq (eq_of_alwaysEmpty h)]
  constructor
  · rintro ⟨n, -, hij, hn⟩
    exact ⟨hij, hn.imp_left fun hn => (Nat.add_eq_zero_iff.1 hn).1⟩
  · rintro ⟨hij, hmin⟩
    exact ⟨0, fun _ _ => Nat.zero_le _, hij, hmin⟩

/-- Bounds that stand for no round or for one are not needed. -/
lemma leads_ite_rep {min : ℕ} {max : Option ℕ} {greedy : Bool} :
    (if min = 0 && max = some 0 then empty
      else if min = 1 && max = some 1 then f else rep f min max greedy).Leads text i j ↔
      (rep f min max greedy).Leads text i j := by
  split
  · next h =>
    rw [Bool.and_eq_true, decide_eq_true_iff, decide_eq_true_iff] at h
    obtain ⟨rfl, rfl⟩ := h
    simp [leads_rep, Times]
    rfl
  · split
    · next h =>
      rw [Bool.and_eq_true, decide_eq_true_iff, decide_eq_true_iff] at h
      obtain ⟨rfl, rfl⟩ := h
      simp [leads_rep, Times]
    · rfl

/-- **A repetition leads where its rounds do.** -/
theorem leads_repeated {min : ℕ} {max : Option ℕ} {greedy : Bool} :
    (f.repeated min max greedy).Leads text i j ↔ (rep f min max greedy).Leads text i j := by
  unfold repeated
  by_cases h : f.alwaysEmpty = true
  · simp only [if_pos h, leads_ite_rep, leads_rep_of_alwaysEmpty h]
    have hmin : Nat.min min 1 = 0 ↔ min = 0 := by
      change min ⊓ 1 = 0 ↔ _
      omega
    rw [hmin]
  · simp only [if_neg h, leads_ite_rep]

end Form

end TextSieve.Regex
