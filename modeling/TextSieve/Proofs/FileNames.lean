import Mathlib.Data.List.TakeWhile
import TextSieve.Format
import TextSieve.Proofs.Occurrences

/-!
The notation that goes with a file. It is decided by the last name of the path: neither the
directories before it nor what may follow it, separators and components for the directory itself,
take part. A name tells TOML if it has these letters behind its last dot, and something before it.
-/

namespace TextSieve

namespace FilePath

/-! ### Components -/

section Split

variable {sep : Char} {x : Text}

lemma splitOn_ne_nil (sep : Char) (t : Text) : splitOn sep t ≠ [] := by
  cases t with
  | nil => exact List.cons_ne_nil _ _
  | cons c t =>
    unfold splitOn
    split
    · exact List.cons_ne_nil _ _
    · split <;> exact List.cons_ne_nil _ _

lemma splitOn_append (sep : Char) (x t : Text) :
    splitOn sep (x ++ sep :: t) = splitOn sep x ++ splitOn sep t := by
  induction x with
  | nil => exact if_pos rfl
  | cons c x ih =>
    rw [List.cons_append, splitOn, splitOn, ih]
    split
    · rw [List.cons_append]
    · cases hx : splitOn sep x with
      | nil => exact absurd hx (splitOn_ne_nil sep x)
      | cons w ws => rfl

lemma splitOn_of_not_mem (h : sep ∉ x) : splitOn sep x = [x] := by
  induction x with
  | nil => rfl
  | cons c x ih =>
    obtain ⟨hc, hx⟩ := not_or.1 fun hmem => h (List.mem_cons.2 hmem)
    rw [splitOn, if_neg (Ne.symm hc), ih hx]

end Split

lemma components_append (x t : Text) :
    components (x ++ '/' :: t) = components x ++ components t := by
  rw [components, splitOn_append, List.filter_append]
  rfl

/-- A separator, or one and a component for the directory itself. -/
def IsVoid (part : Text) : Prop := part = [] ∨ part = ['.']

/-- Parts of a path, each behind a separator. -/
def joined (parts : List Text) : Text := parts.flatMap ('/' :: ·)

lemma components_of_isVoid {part : Text} (h : IsVoid part) : components part = [] := by
  rcases h with rfl | rfl <;> rfl

/-- Void parts at the end of a path do not count. By induction on them; each is the end of the path
before the next. -/
lemma components_append_joined (path : Text) {parts : List Text} (h : ∀ p ∈ parts, IsVoid p) :
    components (path ++ joined parts) = components path := by
  induction parts generalizing path with
  | nil => rw [joined, List.flatMap_nil, List.append_nil]
  | cons p ps ih =>
    obtain ⟨hp, hps⟩ := List.forall_mem_cons.1 h
    have hjoined : joined (p :: ps) = '/' :: (p ++ joined ps) := List.flatMap_cons
    rw [hjoined, components_append, ih p hps, components_of_isVoid hp, List.append_nil]

/-! ### The last name -/

/-- The text can be the name of a file in a directory. -/
structure IsName (n : Text) : Prop where
  ne_nil : n ≠ []
  slash_not_mem : '/' ∉ n
  ne_here : n ≠ ['.']
  ne_above : n ≠ ['.', '.']

/-- The text leads to a directory, if it is put before the name of a file. -/
def IsDirectory (d : Text) : Prop := d = [] ∨ ∃ e, d = e ++ ['/']

lemma IsName.components_eq {n : Text} (h : IsName n) : components n = [n] := by
  rw [components, splitOn_of_not_mem h.slash_not_mem]
  refine List.filter_eq_self.2 ?_
  simp [h.ne_nil, h.ne_here]

/-- **The last name of a path** is found whatever directory it is in and whatever void parts
follow it. -/
lemma fileName?_append {d n : Text} {parts : List Text} (hd : IsDirectory d) (hn : IsName n)
    (hparts : ∀ p ∈ parts, IsVoid p) : fileName? (d ++ n ++ joined parts) = some n := by
  have hlast : (components (d ++ n ++ joined parts)).getLast? = some n := by
    rw [components_append_joined _ hparts]
    rcases hd with rfl | ⟨e, rfl⟩
    · rw [List.nil_append, hn.components_eq]
      rfl
    · rw [List.append_assoc, List.singleton_append, components_append, hn.components_eq,
        List.getLast?_concat]
  rw [fileName?, hlast]
  exact if_neg hn.ne_above

/-! ### The extension -/

/-- The part of a name behind its last dot, with the dot and what stands before it. -/
lemma exists_eq_append_dot {n : Text} (h : (n.reverse.takeWhile (· ≠ '.')).length < n.length) :
    ∃ s, n = s ++ '.' :: (n.reverse.takeWhile (· ≠ '.')).reverse := by
  have hsplit := n.reverse.takeWhile_append_dropWhile (p := (· ≠ '.'))
  have hdot := n.reverse.head?_dropWhile_not (· ≠ '.')
  cases hdrop : n.reverse.dropWhile (· ≠ '.') with
  | nil =>
    rw [hdrop, List.append_nil] at hsplit
    rw [hsplit, List.length_reverse] at h
    exact absurd h (Nat.lt_irrefl _)
  | cons c r =>
    rw [hdrop] at hsplit hdot
    have hc : c = '.' := by simpa using hdot
    refine ⟨r.reverse, ?_⟩
    calc n = (n.reverse.takeWhile (· ≠ '.') ++ c :: r).reverse := by
          rw [hsplit, List.reverse_reverse]
      _ = _ := by rw [hc, List.reverse_append, List.reverse_cons, List.append_assoc]; rfl

/-- What is taken of a name from its end, up to the last dot. -/
lemma takeWhile_reverse_append_dot (s : Text) {e : Text} (h : '.' ∉ e) :
    (s ++ '.' :: e).reverse.takeWhile (· ≠ '.') = e.reverse := by
  have he : ∀ c ∈ e.reverse, decide (c ≠ '.') = true := fun c hc =>
    decide_eq_true fun hdot => h (hdot ▸ List.mem_reverse.1 hc)
  rw [List.reverse_append, List.reverse_cons, List.append_assoc,
    List.takeWhile_append_of_pos he, List.singleton_append, List.takeWhile_cons_of_neg (by simp),
    List.append_nil]

/-- The extension follows the last dot of the last name, if that dot does not come first. -/
lemma extension?_eq_some_iff {path n e : Text} (h : fileName? path = some n) :
    extension? path = some e ↔ '.' ∉ e ∧ ∃ s, n = s ++ '.' :: e ∧ s ≠ [] := by
  have hext : extension? path =
      if (n.reverse.takeWhile (· ≠ '.')).length + 1 < n.length then
        some (n.reverse.takeWhile (· ≠ '.')).reverse
      else none := by
    rw [extension?, h]
    rfl
  rw [hext]
  constructor
  · intro he
    split at he
    · next hlength =>
      cases he
      obtain ⟨s, hs⟩ := exists_eq_append_dot (Nat.lt_of_succ_lt hlength)
      refine ⟨fun hdot => ?_, s, hs, ?_⟩
      · simpa using List.mem_takeWhile_imp (List.mem_reverse.1 hdot)
      · rintro rfl
        have := congrArg List.length hs
        simp only [List.nil_append, List.length_cons, List.length_reverse] at this
        omega
    · cases he
  · rintro ⟨hdot, s, rfl, hs⟩
    have hpos := List.length_pos_iff.2 hs
    rw [takeWhile_reverse_append_dot s hdot, if_pos, List.reverse_reverse]
    simp only [List.length_reverse, List.length_append, List.length_cons]
    omega

end FilePath

/-! ### The notation -/

namespace Format

open FilePath

/-- The name has the letters of TOML behind a dot, in either case, and something before it. -/
def NamesToml (n : Text) : Prop :=
  ∃ s e, n = s ++ '.' :: e ∧ s ≠ [] ∧ Text.SameLetters e "toml".toList

lemma dot_not_mem_of_sameLetters {e : Text} (h : Text.SameLetters e "toml".toList) : '.' ∉ e := by
  intro hdot
  have hmem := List.mem_map_of_mem (f := Char.toLower) hdot
  rw [Text.sameLetters_iff.1 h] at hmem
  exact absurd hmem (by decide)

lemma ofPath_eq_toml_iff {path n : Text} (h : fileName? path = some n) :
    ofPath path = .toml ↔ NamesToml n := by
  have htoml : ofPath path = .toml ↔
      ∃ e, extension? path = some e ∧ Text.SameLetters e "toml".toList := by
    unfold ofPath
    cases extension? path with
    | none => simp
    | some e =>
      simp [Text.sameLetters_iff]
  rw [htoml]
  constructor
  · rintro ⟨e, he, hletters⟩
    obtain ⟨-, s, hn, hs⟩ := (extension?_eq_some_iff h).1 he
    exact ⟨s, e, hn, hs, hletters⟩
  · rintro ⟨s, e, hn, hs, hletters⟩
    exact ⟨e, (extension?_eq_some_iff h).2 ⟨dot_not_mem_of_sameLetters hletters, s, hn, hs⟩,
      hletters⟩

/-- **The last name of a path decides the notation.** Whatever directory a file is in, and whatever
separators and components for the directory itself follow its name, its document is TOML if the
name has the letters of TOML behind a dot that does not come first, and JSON otherwise. The wish for
the notation that goes with a file comes to the same on every path. -/
theorem ofPath_of_last_name {d n : Text} {parts : List Text} (hd : IsDirectory d) (hn : IsName n)
    (hparts : ∀ p ∈ parts, IsVoid p) :
    (ofPath (d ++ n ++ joined parts) = .toml ↔ NamesToml n) ∧
    (ofPath (d ++ n ++ joined parts) = .json ↔ ¬ NamesToml n) ∧
    ∀ path, FormatChoice.auto.resolve path = ofPath path := by
  have htoml := ofPath_eq_toml_iff (fileName?_append hd hn hparts)
  refine ⟨htoml, ?_, fun _ => rfl⟩
  rw [← htoml]
  cases ofPath (d ++ n ++ joined parts) <;> simp

/-- Two files in a directory that goes up again from one with a telling name: the first tells TOML
in mixed case, and the name of the second has nothing before its dot. -/
theorem ofPath_of_last_name_dotted :
    let d : Text := "/a.toml/../".toList
    let parts : List Text := ["".toList, ".".toList]
    IsDirectory d ∧ IsName ".v1.tOmL".toList ∧ IsName ".toml".toList ∧ (∀ p ∈ parts, IsVoid p) ∧
      ofPath "/a.toml/../.v1.tOmL//.".toList = .toml ∧
      ofPath "/a.toml/../.toml//.".toList = .json := by
  intro d parts
  have hd : IsDirectory d := Or.inr ⟨"/a.toml/..".toList, by decide⟩
  have hn : IsName ".v1.tOmL".toList := ⟨by decide, by decide, by decide, by decide⟩
  have hn' : IsName ".toml".toList := ⟨by decide, by decide, by decide, by decide⟩
  have hparts : ∀ p ∈ parts, IsVoid p := by
    simp only [parts, List.forall_mem_cons]
    exact ⟨Or.inl rfl, Or.inr rfl, nofun⟩
  have hletters : Text.SameLetters "tOmL".toList "toml".toList :=
    Text.sameLetters_iff.2 (by decide)
  refine ⟨hd, hn, hn', hparts, ?_, ?_⟩
  · exact (ofPath_of_last_name hd hn hparts).1.2 ⟨".v1".toList, _, by decide, by decide, hletters⟩
  · refine (ofPath_of_last_name hd hn' hparts).2.1.2 ?_
    rintro ⟨s, e, hs, hne, -⟩
    obtain ⟨c, s, rfl⟩ := List.exists_cons_of_ne_nil hne
    have htail : "toml".toList = s ++ '.' :: e :=
      (List.cons.inj (show '.' :: "toml".toList = c :: (s ++ '.' :: e) from hs)).2
    have hdot : '.' ∉ "toml".toList := by decide
    exact hdot (htail ▸ List.mem_append_right s List.mem_cons_self)

end Format

end TextSieve
