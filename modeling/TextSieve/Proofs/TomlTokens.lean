import Mathlib.Data.List.Basic
import Mathlib.Tactic.Lemma
import Mathlib.Tactic.SplitIfs
import TextSieve.Toml.Reader

/-!
Values and bare keys of TOML, written and read back. A text has many spellings, since a character
that may stand for itself may be given by its code as well; all of them are read as the same text.
-/

namespace TextSieve

/-! ### Texts made of parts -/

/-- The text is made of parts, one for each item, in the order of the items. -/
inductive Text.Parts {α : Type} (IsPart : α → Text → Prop) : List α → Text → Prop
  | nil : Parts IsPart [] []
  | cons {a : α} {as : List α} {part rest : Text} (first : IsPart a part)
      (others : Parts IsPart as rest) : Parts IsPart (a :: as) (part ++ rest)

section Parts

variable {α : Type} {IsPart : α → Text → Prop} {as : List α}

lemma Text.parts_flatMap {write : α → Text} (h : ∀ a, IsPart a (write a)) (as : List α) :
    Parts IsPart as (as.flatMap write) := by
  induction as with
  | nil => exact .nil
  | cons a as ih =>
    rw [List.flatMap_cons]
    exact .cons (h a) ih

lemma Text.Parts.imp {IsPart' : α → Text → Prop} {t : Text} (h : Parts IsPart as t)
    (himp : ∀ a part, IsPart a part → IsPart' a part) : Parts IsPart' as t := by
  induction h with
  | nil => exact .nil
  | cons first others ih => exact .cons (himp _ _ first) ih

lemma Text.Parts.length_le {t : Text} (h : Parts IsPart as t)
    (hpos : ∀ a part, IsPart a part → 0 < part.length) : as.length ≤ t.length := by
  induction h with
  | nil => exact Nat.le_refl 0
  | @cons a as part rest first others ih =>
    have hpart : 0 < part.length := hpos a part first
    rw [List.length_cons, List.length_append]
    omega

end Parts

namespace Toml

/-! ### Spellings of texts -/

/-- A character between quotes: it stands for itself, if it is no quote, no backslash and no
control character, or it is given by the four digits of its code. -/
inductive Spelling (c : Char) : Text → Prop
  | plain (notQuote : c ≠ '"') (notSlash : c ≠ '\\') (notControl : 0x20 ≤ c.toNat)
      (notDelete : c.toNat ≠ 0x7f) : Spelling c [c]
  | coded {digits : Text} (four : digits.length = 4) (hex : ∀ d ∈ digits, isDigitOf 16 d = true)
      (code : ofDigits 16 digits = c.toNat) : Spelling c ('\\' :: 'u' :: digits)

/-- The usual spelling of a character: quotes, backslashes and control characters are given by
their codes. -/
def spell (c : Char) : Text :=
  if c = '"' ∨ c = '\\' ∨ c.toNat < 0x20 ∨ (0x7f ≤ c.toNat ∧ c.toNat < 0xa0) then
    ['\\', 'u', '0', '0', Nat.digitChar (c.toNat / 16), Nat.digitChar (c.toNat % 16)]
  else [c]

lemma digitValue_digitChar : ∀ n < 16,
    isDigitOf 16 (Nat.digitChar n) = true ∧ digitValue (Nat.digitChar n) = n := by
  decide

/-- A code below 256 has two digits. -/
lemma ofDigits_byte {n : ℕ} (h : n < 0x100) :
    (∀ d ∈ ['0', '0', Nat.digitChar (n / 16), Nat.digitChar (n % 16)], isDigitOf 16 d = true) ∧
      ofDigits 16 ['0', '0', Nat.digitChar (n / 16), Nat.digitChar (n % 16)] = n := by
  obtain ⟨hhigh, hhighValue⟩ := digitValue_digitChar (n / 16) (by omega)
  obtain ⟨hlow, hlowValue⟩ := digitValue_digitChar (n % 16) (by omega)
  constructor
  · simp only [List.forall_mem_cons]
    exact ⟨rfl, rfl, hhigh, hlow, nofun⟩
  · show ((0 * 16 + 0) * 16 + digitValue (Nat.digitChar (n / 16))) * 16 +
      digitValue (Nat.digitChar (n % 16)) = n
    rw [hhighValue, hlowValue]
    omega

lemma spelling_spell (c : Char) : Spelling c (spell c) := by
  unfold spell
  split_ifs with h
  · have hlt : c.toNat < 0x100 := by
      rcases h with rfl | rfl | hlow | ⟨-, hhigh⟩
      · decide
      · decide
      · omega
      · omega
    obtain ⟨hex, code⟩ := ofDigits_byte hlt
    exact .coded rfl hex code
  · simp only [not_or, not_and] at h
    obtain ⟨notQuote, notSlash, notLow, notHigh⟩ := h
    exact .plain notQuote notSlash (by omega) (by omega)

lemma Spelling.length_pos {c : Char} {w : Text} (h : Spelling c w) : 0 < w.length := by
  cases h with
  | plain => exact Nat.one_pos
  | coded => exact Nat.zero_lt_succ _

lemma hexDigit?_of_isDigitOf {d : Char} (h : isDigitOf 16 d = true) :
    hexDigit? d = some (digitValue d) := by
  have hdecimal : ('0' ≤ d ∧ d ≤ '9') ↔ d.isDigit = true := Char.isDigit_iff_toNat.symm
  unfold isDigitOf at h
  unfold hexDigit? digitValue
  simp only [Bool.or_eq_true, Bool.and_eq_true, decide_eq_true_eq, beq_iff_eq, true_and,
    hdecimal] at h ⊢
  rcases h with ⟨hd, -⟩ | hlower | hupper
  · rw [if_pos hd, if_pos hd]
  · have hnot : ¬ d.isDigit = true := fun hd =>
      absurd (Nat.le_trans hlower.1 (hdecimal.2 hd).2) (by decide)
    rw [if_neg hnot, if_pos hlower, if_neg hnot, if_pos hlower.1]
  · have hnot : ¬ d.isDigit = true := fun hd =>
      absurd (Nat.le_trans hupper.1 (hdecimal.2 hd).2) (by decide)
    have hlower : ¬ 'a' ≤ d := fun ha => absurd (Nat.le_trans ha hupper.2) (by decide)
    rw [if_neg hnot, if_neg fun ha => hlower ha.1, if_pos hupper, if_neg hnot, if_neg hlower]

lemma hexNumber?_of_hex {digits : Text} (h : ∀ d ∈ digits, isDigitOf 16 d = true) (acc : ℕ) :
    hexNumber? acc digits = some (digits.foldl (fun n d => n * 16 + digitValue d) acc) := by
  induction digits generalizing acc with
  | nil => rfl
  | cons d digits ih =>
    have hd : hexDigit? d = some (digitValue d) := hexDigit?_of_isDigitOf (h d List.mem_cons_self)
    rw [hexNumber?, hd, List.foldl_cons]
    exact ih (fun e he => h e (List.mem_cons_of_mem _ he)) _

lemma readCode_of_hex {digits : Text} {c : Char} (four : digits.length = 4)
    (hex : ∀ d ∈ digits, isDigitOf 16 d = true) (code : ofDigits 16 digits = c.toNat)
    (rest : Text) : readCode 4 (digits ++ rest) = .ok (c, rest) := by
  have htake : (digits ++ rest).take 4 = digits := by rw [← four, List.take_left]
  have hdrop : (digits ++ rest).drop 4 = rest := by rw [← four, List.drop_left]
  have hnumber : hexNumber? 0 digits = some c.toNat := by
    rw [hexNumber?_of_hex hex, ← code]
    rfl
  unfold readCode
  rw [htake, hdrop, if_pos four, hnumber]
  show (if c.toNat.isValidChar then Except.ok (Char.ofNat c.toNat, rest) else _) = _
  have hvalid : c.toNat.isValidChar := c.valid
  rw [if_pos hvalid, Char.ofNat_toNat]

/-- One character is read, whatever its spelling. -/
lemma readBasic_spelling (fuel : ℕ) {c : Char} {w : Text} (h : Spelling c w) (rest : Text) :
    readBasic (fuel + 1) (w ++ rest) = (readBasic fuel rest).map fun r => (c :: r.1, r.2) := by
  cases h with
  | plain notQuote notSlash notControl notDelete =>
    have htext : isTextChar c = true := by
      unfold isTextChar isLineChar
      have hdel : c ≠ '\x7f' := by
        rintro rfl
        exact notDelete rfl
      simp only [Bool.and_eq_true, Bool.or_eq_true, decide_eq_true_eq]
      exact ⟨Or.inr notControl, hdel⟩
    rw [List.singleton_append, readBasic, if_pos htext]
    · cases readBasic fuel rest <;> rfl
    · exact fun hc _ => notSlash hc
    · exact notQuote
    · exact notSlash
  | @coded digits four hex code =>
    have hescape : readEscape ('u' :: digits ++ rest) = .ok (c, rest) :=
      readCode_of_hex four hex code rest
    rw [List.cons_append, readBasic, hescape]
    · show (readBasic fuel rest >>= fun r => .ok (c :: r.1, r.2)) = _
      cases readBasic fuel rest <;> rfl
    · nofun

/-- **A spelled text is read back**, whatever follows its last quote. -/
lemma readBasic_parts {t w : Text} (h : Text.Parts Spelling t w) {fuel : ℕ}
    (hfuel : t.length < fuel) (rest : Text) :
    readBasic fuel (w ++ '"' :: rest) = .ok (t, rest) := by
  induction h generalizing fuel with
  | nil =>
    obtain ⟨fuel, rfl⟩ := Nat.exists_eq_add_one.2 (Nat.zero_lt_of_lt hfuel)
    rfl
  | cons first others ih =>
    obtain ⟨fuel, rfl⟩ := Nat.exists_eq_add_one.2 (Nat.zero_lt_of_lt hfuel)
    rw [List.append_assoc, readBasic_spelling fuel first, ih (Nat.lt_of_succ_lt_succ hfuel)]
    rfl

/-! ### Values -/

/-- A spelled text between quotes. -/
def quoted (w : Text) : Text := '"' :: w ++ ['"']

/-- A value as it stands on a line: a text between quotes, a truth value, or the empty array. -/
inductive Written : Datum → Text → Prop
  | text {t w : Text} (parts : Text.Parts Spelling t w) : Written (.text t) (quoted w)
  | truth (b : Bool) : Written (.truth b) (Text.ofBool b)
  | empty : Written (.array []) ['[', ']']

/-- A quote with no two others behind it opens a text on one line. -/
lemma readQuoted_of_ne (fuel : ℕ) {s : Text} (h : ∀ t, s ≠ '"' :: '"' :: t) :
    readQuoted fuel ('"' :: s) = readBasic fuel s := by
  rw [readQuoted]
  rintro t rfl
  exact h t rfl

lemma readQuoted_parts {t w : Text} (h : Text.Parts Spelling t w) {fuel : ℕ}
    (hfuel : t.length < fuel) (rest : Text) :
    readQuoted fuel ('"' :: (w ++ '"' :: '\n' :: rest)) = .ok (t, '\n' :: rest) := by
  have hne : ∀ u, w ++ '"' :: '\n' :: rest ≠ '"' :: '"' :: u := by
    cases h with
    | nil => nofun
    | cons first others =>
      cases first with
      | plain notQuote =>
        intro u hu
        exact notQuote (List.cons.inj hu).1
      | coded => nofun
  rw [readQuoted_of_ne fuel hne, readBasic_parts h hfuel]

/-- The text is read as the value, up to the end of its line. -/
structure Reads (w : Text) (d : Datum) : Prop where
  nonempty : 0 < w.length
  unblank : ∀ rest, skipBlank (' ' :: (w ++ rest)) = w ++ rest
  value : ∀ fuel rest, w.length ≤ fuel →
    readValue fuel maxDepth (w ++ '\n' :: rest) = .ok (d, '\n' :: rest)

/-- The fuel is as much as the characters of the text need, and some more. -/
lemma Reads.of_length {w : Text} {d : Datum} (nonempty : 0 < w.length)
    (unblank : ∀ rest, skipBlank (' ' :: (w ++ rest)) = w ++ rest)
    (value : ∀ fuel rest, readValue (fuel + w.length) maxDepth (w ++ '\n' :: rest) =
      .ok (d, '\n' :: rest)) : Reads w d := by
  refine ⟨nonempty, unblank, fun fuel rest hfuel => ?_⟩
  obtain ⟨fuel, rfl⟩ := Nat.exists_eq_add_of_le' hfuel
  exact value fuel rest

/-- **A written value is read back.** -/
lemma Written.reads {d : Datum} {w : Text} (h : Written d w) : Reads w d := by
  cases h with
  | @text t w parts =>
    refine ⟨Nat.zero_lt_succ _, fun rest => rfl, fun fuel rest hfuel => ?_⟩
    rw [quoted, List.length_append, List.length_cons, List.length_singleton] at hfuel
    obtain ⟨fuel, rfl⟩ := Nat.exists_eq_add_one.2 (Nat.lt_of_lt_of_le (Nat.zero_lt_succ _) hfuel)
    have hlength : t.length ≤ w.length := parts.length_le fun _ _ hw => hw.length_pos
    have ht : t.length < fuel := by omega
    have hquoted := readQuoted_parts parts ht rest
    rw [quoted, List.cons_append, List.cons_append, List.append_assoc, List.singleton_append]
    show (readQuoted fuel ('"' :: (w ++ '"' :: '\n' :: rest))).map _ = _
    rw [hquoted]
    rfl
  | truth b =>
    cases b with
    | false => exact .of_length (Nat.zero_lt_succ _) (fun _ => rfl) fun _ _ => rfl
    | true => exact .of_length (Nat.zero_lt_succ _) (fun _ => rfl) fun _ _ => rfl
  | empty => exact .of_length (Nat.zero_lt_succ _) (fun _ => rfl) fun _ _ => rfl

/-- A text in its usual spelling is read back. -/
lemma reads_spelled (t : Text) : Reads (quoted (t.flatMap spell)) (.text t) :=
  (Written.text (Text.parts_flatMap spelling_spell t)).reads

/-! ### Keys -/

/-- The text is a key that needs no quotes. -/
def IsBare (key : Text) : Prop := key ≠ [] ∧ key.all isBareChar = true

instance : DecidablePred IsBare := fun key =>
  inferInstanceAs (Decidable (key ≠ [] ∧ key.all isBareChar = true))

/-- The text goes on with a character that belongs to no bare key. -/
def EndsKey (rest : Text) : Prop := ∃ c t, rest = c :: t ∧ isBareChar c = false

lemma ne_of_isBareChar {c d : Char} (hc : isBareChar c = true) (hd : isBareChar d = false) :
    c ≠ d := by
  rintro rfl
  rw [hc] at hd
  cases hd

lemma IsBare.exists_cons {key : Text} (h : IsBare key) :
    ∃ c t, key = c :: t ∧ isBareChar c = true := by
  obtain ⟨hne, hall⟩ := h
  obtain ⟨c, t, rfl⟩ := List.exists_cons_of_ne_nil hne
  exact ⟨c, t, rfl, List.all_eq_true.1 hall c List.mem_cons_self⟩

lemma skipBlank_of_bare {c : Char} (h : isBareChar c = true) (t : Text) :
    skipBlank (c :: t) = c :: t := by
  have hblank : isBlank c = false := by
    unfold isBlank
    rw [beq_false_of_ne (ne_of_isBareChar h (d := ' ') rfl),
      beq_false_of_ne (ne_of_isBareChar h (d := '\t') rfl), Bool.or_false]
  unfold skipBlank
  rw [List.dropWhile_cons, hblank]
  rfl

lemma readKey_bare {key : Text} (h : IsBare key) (fuel : ℕ) {rest : Text} (hrest : EndsKey rest) :
    readKey fuel (key ++ rest) = .ok (key, rest) := by
  obtain ⟨d, u, rfl, hd⟩ := hrest
  have hall : ∀ c ∈ key, isBareChar c = true := List.all_eq_true.1 h.2
  have htake : (key ++ d :: u).takeWhile isBareChar = key := by
    rw [List.takeWhile_append_of_pos hall, List.takeWhile_cons, hd]
    exact List.append_nil key
  have hdrop : (key ++ d :: u).dropWhile isBareChar = d :: u := by
    rw [List.dropWhile_append_of_pos hall, List.dropWhile_cons, hd]
    rfl
  obtain ⟨c, t, rfl, hc⟩ := h.exists_cons
  have hstarts : startsKey (c :: t ++ d :: u) = true := by
    show (c == '"' || c == '\'' || isBareChar c) = true
    rw [hc, Bool.or_true]
  rw [readKey, if_pos hstarts, htake, hdrop]
  · exact fun v hv => ne_of_isBareChar hc (d := '"') rfl (List.cons.inj hv).1
  · exact fun v hv => ne_of_isBareChar hc (d := '\'') rfl (List.cons.inj hv).1

/-- A bare key that no dot follows is a path of its own. -/
lemma readShortPath_bare {key : Text} (h : IsBare key) {fuel : ℕ} (hfuel : 0 < fuel)
    (start : Text) {rest : Text} (hrest : EndsKey rest) {c : Char} {t : Text}
    (hnext : skipBlank rest = c :: t) (hdot : c ≠ '.') :
    readShortPath fuel start (key ++ rest) = .ok ([key], c :: t) := by
  obtain ⟨fuel, rfl⟩ := Nat.exists_eq_add_one.2 hfuel
  have hblank : skipBlank (key ++ rest) = key ++ rest := by
    obtain ⟨d, u, rfl, hd⟩ := h.exists_cons
    exact skipBlank_of_bare hd (u ++ rest)
  have hpath : readPath (fuel + 1) (key ++ rest) = .ok ([key], c :: t) := by
    rw [readPath, hblank, readKey_bare h fuel hrest]
    simp only [bind, Except.bind, hnext]
    split
    · next u hu => exact absurd (List.cons.inj hu).1 hdot
    · rfl
  unfold readShortPath
  rw [hpath]
  rfl

end Toml

end TextSieve
