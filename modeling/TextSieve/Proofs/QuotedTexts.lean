import TextSieve.Proofs.RecordDecoding
import TextSieve.Text.Quoted

/-!
Quoted texts. What is written for a character tells where it ends, so a quoted text determines the
text, and where it ends itself. Nothing in it is a control character, whatever the text, and so it
stands on one line.
-/

namespace TextSieve.Text

/-! ### Numerals in base sixteen -/

lemma hex_eq (n : ℕ) :
    hex n = if n < 16 then [n.digitChar] else hex (n / 16) ++ [(n % 16).digitChar] :=
  Nat.toDigits_eq_if (by decide)

lemma exists_digitChar_of_mem_hex {c : Char} {n : ℕ} (h : c ∈ hex n) :
    ∃ d < 16, c = Nat.digitChar d := by
  induction n using Nat.strongRecOn with
  | ind n ih =>
    rw [hex_eq] at h
    split_ifs at h with hn
    · exact ⟨n, hn, List.mem_singleton.1 h⟩
    · rcases List.mem_append.1 h with h | h
      · exact ih (n / 16) (Nat.div_lt_self (by omega) (by decide)) h
      · exact ⟨n % 16, Nat.mod_lt _ (by decide), List.mem_singleton.1 h⟩

lemma plain_hex (n : ℕ) : Plain (hex n) := by
  have hdigit : ∀ d < 16, 0x20 ≤ (Nat.digitChar d).toNat := by decide
  intro c hc
  obtain ⟨d, hd, rfl⟩ := exists_digitChar_of_mem_hex hc
  exact hdigit d hd

lemma brace_not_mem_hex (n : ℕ) : '}' ∉ hex n := by
  have hdigit : ∀ d < 16, '}' ≠ Nat.digitChar d := by decide
  intro h
  obtain ⟨d, hd, he⟩ := exists_digitChar_of_mem_hex h
  exact hdigit d hd he

/-- A number is determined by its numeral. By induction on the number, from the last digit on. -/
lemma hex_injective : Function.Injective hex := by
  have hdigit : ∀ d < 16, ∀ e < 16, Nat.digitChar d = Nat.digitChar e → d = e := by decide
  have hlast : ∀ k, hex k ≠ [] := fun _ => Nat.toDigits_ne_nil
  intro m
  induction m using Nat.strongRecOn with
  | ind m ih =>
    intro n h
    rw [hex_eq m, hex_eq n] at h
    by_cases hm : m < 16
    · rw [if_pos hm] at h
      by_cases hn : n < 16
      · rw [if_pos hn] at h
        exact hdigit m hm n hn (List.singleton_inj.1 h)
      · rw [if_neg hn] at h
        have hdigits : [] ++ [m.digitChar] = hex (n / 16) ++ [(n % 16).digitChar] := h
        exact absurd (List.append_inj' hdigits rfl).1.symm (hlast _)
    · rw [if_neg hm] at h
      by_cases hn : n < 16
      · rw [if_pos hn] at h
        have hdigits : hex (m / 16) ++ [(m % 16).digitChar] = [] ++ [n.digitChar] := h
        exact absurd (List.append_inj' hdigits rfl).1 (hlast _)
      · rw [if_neg hn] at h
        obtain ⟨hhigh, hlow⟩ := List.append_inj' h rfl
        have hdiv := ih (m / 16) (Nat.div_lt_self (by omega) (by decide)) hhigh
        have hmod := hdigit _ (Nat.mod_lt m (by decide)) _ (Nat.mod_lt n (by decide))
          (List.singleton_inj.1 hlow)
        omega

/-! ### Escapes -/

/-- The characters with an escape of two characters, each with the second of them. -/
def shortEscapes : List (Char × Char) :=
  [('\x00', '0'), ('\t', 't'), ('\r', 'r'), ('\n', 'n'), ('"', '"'), ('\\', '\\')]

/-- The ways to write a character in a quoted text. -/
inductive EscapedAs : Char → Text → Prop
  | short {c x : Char} (h : (c, x) ∈ shortEscapes) : EscapedAs c ['\\', x]
  | point {c : Char} : EscapedAs c (escapePoint c)
  | seen {c : Char} (quote : c ≠ '"') (backslash : c ≠ '\\')
      (printable : unprintable.contains c = false) : EscapedAs c [c]

lemma escapedAs_escapeChar (c : Char) : EscapedAs c (escapeChar c) := by
  unfold escapeChar
  split_ifs with h0 ht hr hn hq hb hu
  · exact h0 ▸ .short (by decide)
  · exact ht ▸ .short (by decide)
  · exact hr ▸ .short (by decide)
  · exact hn ▸ .short (by decide)
  · exact hq ▸ .short (by decide)
  · exact hb ▸ .short (by decide)
  · exact .point
  · exact .seen hq hb (Bool.eq_false_iff.2 hu)

namespace EscapedAs

variable {c d : Char} {e f s t : Text}

/-- Control characters are not printable. -/
lemma plain (h : EscapedAs c e) : Plain e := by
  cases h with
  | @short x h =>
    have hshort : ∀ p ∈ shortEscapes, 0x20 ≤ p.2.toNat := by decide
    simpa using hshort _ h
  | point => simp [escapePoint, plain_hex]
  | seen quote backslash printable =>
    have hcontrol : ∀ n < 0x20, unprintable.has n = true := by decide
    have hc : 0x20 ≤ c.toNat := by
      by_contra hlt
      have := hcontrol c.toNat (by omega)
      unfold CharSet.contains at printable
      rw [this] at printable
      cases printable
    simpa using hc

/-- A quote stands at the beginning of no escape. -/
lemma append_ne_quote (h : EscapedAs c e) (s t : Text) : e ++ s ≠ '"' :: t := by
  intro heq
  cases h with
  | short => exact absurd (List.cons.inj heq).1 (by decide)
  | point => exact absurd (List.cons.inj heq).1 (by decide)
  | seen quote => exact quote (List.cons.inj heq).1

/-- What is written for a character determines the character, and where it ends. -/
lemma append_inj (hc : EscapedAs c e) (hd : EscapedAs d f) (h : e ++ s = f ++ t) :
    c = d ∧ s = t := by
  have hshort : ∀ p ∈ shortEscapes, ∀ q ∈ shortEscapes, p.2 = q.2 → p.1 = q.1 := by decide
  have hpoint : ∀ p ∈ shortEscapes, p.2 ≠ 'u' := by decide
  cases hc with
  | short hx =>
    cases hd with
    | short hy =>
      obtain ⟨hxy, hst⟩ := List.cons.inj (List.cons.inj h).2
      exact ⟨hshort _ hx _ hy hxy, hst⟩
    | point => exact absurd (List.cons.inj (List.cons.inj h).2).1 (hpoint _ hx)
    | seen _ backslash => exact absurd (List.cons.inj h).1.symm backslash
  | point =>
    cases hd with
    | short hy => exact absurd (List.cons.inj (List.cons.inj h).2).1.symm (hpoint _ hy)
    | point =>
      have hcode : hex c.toNat ++ '}' :: s = hex d.toNat ++ '}' :: t := by
        simpa [escapePoint] using h
      obtain ⟨hhex, hst⟩ := append_cons_inj (brace_not_mem_hex _) (brace_not_mem_hex _) hcode
      exact ⟨Char.toNat_inj.1 (hex_injective hhex), hst⟩
    | seen _ backslash => exact absurd (List.cons.inj h).1.symm backslash
  | seen _ backslash =>
    cases hd with
    | short => exact absurd (List.cons.inj h).1 backslash
    | point => exact absurd (List.cons.inj h).1 backslash
    | seen => exact List.cons.inj h

end EscapedAs

/-! ### Quoted texts -/

lemma escapes_append_inj {t u r s : Text}
    (h : t.flatMap escapeChar ++ '"' :: r = u.flatMap escapeChar ++ '"' :: s) :
    t = u ∧ r = s := by
  induction t generalizing u with
  | nil =>
    cases u with
    | nil => exact ⟨rfl, (List.cons.inj h).2⟩
    | cons d u =>
      rw [List.flatMap_cons, List.append_assoc] at h
      exact absurd h.symm ((escapedAs_escapeChar d).append_ne_quote _ _)
  | cons c t ih =>
    cases u with
    | nil =>
      rw [List.flatMap_cons, List.append_assoc] at h
      exact absurd h ((escapedAs_escapeChar c).append_ne_quote _ _)
    | cons d u =>
      rw [List.flatMap_cons, List.flatMap_cons, List.append_assoc, List.append_assoc] at h
      obtain ⟨rfl, hrest⟩ := (escapedAs_escapeChar c).append_inj (escapedAs_escapeChar d) h
      obtain ⟨rfl, rfl⟩ := ih hrest
      exact ⟨rfl, rfl⟩

/-- **A quoted text determines the text, and where it ends.** -/
theorem quoted_append_inj {t u r s : Text} (h : t.quoted ++ r = u.quoted ++ s) :
    t = u ∧ r = s := by
  have hbody : t.flatMap escapeChar ++ '"' :: r = u.flatMap escapeChar ++ '"' :: s := by
    simpa [quoted] using h
  exact escapes_append_inj hbody

/-- **A quoted text has no control characters.** -/
theorem plain_quoted (t : Text) : Plain t.quoted := by
  have hbody : Plain (t.flatMap escapeChar) := by
    intro c hc
    obtain ⟨d, -, hd⟩ := List.mem_flatMap.1 hc
    exact (escapedAs_escapeChar d).plain c hd
  simp [quoted, hbody]

end TextSieve.Text
