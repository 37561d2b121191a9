import Mathlib.Data.List.Basic
import Mathlib.Tactic.Lemma
import TextSieve.Json.Reader
import TextSieve.Json.Writer

/-!
Strings and integers of JSON, written and read back: `readString_writeString` and
`readNumber_ofNat`. Both are stated with the text that follows, which is what the reader of a
tree meets.
-/

namespace TextSieve.Json

/-! ### Characters of strings -/

/-- The two digits of a control character. -/
lemma escapeControl_eq : ∀ n < 32,
    escapeControl (Char.ofNat n) =
        ['\\', 'u', '0', '0', Nat.digitChar (n / 16), Nat.digitChar (n % 16)] ∧
      hexDigit? (Nat.digitChar (n / 16)) = some (n / 16) ∧
      hexDigit? (Nat.digitChar (n % 16)) = some (n % 16) := by
  decide

lemma readHex4_of_digits {a b c d : Char} {w x y z : ℕ} (ha : hexDigit? a = some w)
    (hb : hexDigit? b = some x) (hc : hexDigit? c = some y) (hd : hexDigit? d = some z)
    (t : Text) :
    readHex4 (a :: b :: c :: d :: t) = .ok (((w * 16 + x) * 16 + y) * 16 + z, t) := by
  have hsize : ¬ Text.byteSize (a :: b :: c :: d :: t) < 4 := by
    have := a.utf8Size_pos
    have := b.utf8Size_pos
    have := c.utf8Size_pos
    have := d.utf8Size_pos
    simp only [Text.byteSize_cons]
    omega
  unfold readHex4
  rw [if_neg hsize]
  simp only [ha, hb, hc, hd]

/-- A control character is read back from its escape. -/
lemma readEscape_control {c : Char} (hc : c.toNat < 32) (t : Text) :
    ∃ s, escapeControl c = '\\' :: s ∧ readEscape (s ++ t) = .ok (c, t) := by
  obtain ⟨he, ha, hb⟩ := escapeControl_eq c.toNat hc
  rw [Char.ofNat_toNat] at he
  have h0 : hexDigit? '0' = some 0 := by decide
  have hn : ((0 * 16 + 0) * 16 + c.toNat / 16) * 16 + c.toNat % 16 = c.toNat := by omega
  refine ⟨_, he, ?_⟩
  show readCode ('0' :: '0' :: Nat.digitChar (c.toNat / 16) ::
    Nat.digitChar (c.toNat % 16) :: t) = _
  unfold readCode
  rw [readHex4_of_digits h0 h0 ha hb, hn]
  show (if 0xDC00 ≤ c.toNat && c.toNat ≤ 0xDFFF then _
    else if 0xD800 ≤ c.toNat && c.toNat ≤ 0xDBFF then _ else _) = _
  rw [if_neg (by simp; omega), if_neg (by simp; omega), Char.ofNat_toNat]

lemma readString_escape (fuel : ℕ) {c : Char} {s t : Text} (h : readEscape (s ++ t) = .ok (c, t)) :
    readString (fuel + 1) ('\\' :: s ++ t) =
      (readString fuel t).map fun p => (c :: p.1, p.2) := by
  rw [List.cons_append, readString, h]
  change (readString fuel t >>= fun p => .ok (c :: p.1, p.2)) = _
  cases readString fuel t <;> rfl

lemma readString_plain (fuel : ℕ) {c : Char} (hq : c ≠ '"') (hb : c ≠ '\\') (hc : ¬ c.toNat < 32)
    (t : Text) :
    readString (fuel + 1) (c :: t) = (readString fuel t).map fun p => (c :: p.1, p.2) := by
  rw [readString, if_neg hc]
  · cases readString fuel t <;> rfl
  · exact hq
  · exact hb

/-- One character of a string is read back, whatever its form. -/
lemma readString_writeChar (fuel : ℕ) (c : Char) (t : Text) :
    readString (fuel + 1) (writeChar c ++ t) =
      (readString fuel t).map fun p => (c :: p.1, p.2) := by
  unfold writeChar
  split_ifs with hq hb hn hr ht h8 hf hc
  · exact hq ▸ readString_escape fuel (s := ['"']) rfl
  · exact hb ▸ readString_escape fuel (s := ['\\']) rfl
  · exact hn ▸ readString_escape fuel (s := ['n']) rfl
  · exact hr ▸ readString_escape fuel (s := ['r']) rfl
  · exact ht ▸ readString_escape fuel (s := ['t']) rfl
  · exact h8 ▸ readString_escape fuel (s := ['b']) rfl
  · exact hf ▸ readString_escape fuel (s := ['f']) rfl
  · obtain ⟨s, he, hs⟩ := readEscape_control hc t
    rw [he]
    exact readString_escape fuel hs
  · exact readString_plain fuel hq hb hc t

lemma length_writeChar_pos (c : Char) : 0 < (writeChar c).length := by
  unfold writeChar
  split_ifs <;> simp [escapeControl]

lemma length_le_flatMap_writeChar (t : Text) : t.length ≤ (t.flatMap writeChar).length := by
  induction t with
  | nil => simp
  | cons c t ih =>
    have := length_writeChar_pos c
    simp only [List.length_cons, List.flatMap_cons, List.length_append]
    omega

/-- **A written string is read back**, whatever follows it. -/
theorem readString_writeString {fuel : ℕ} {t : Text} (h : t.length < fuel) (rest : Text) :
    readString fuel (t.flatMap writeChar ++ '"' :: rest) = .ok (t, rest) := by
  induction t generalizing fuel with
  | nil =>
    obtain ⟨fuel, rfl⟩ := Nat.exists_eq_add_one.2 (Nat.zero_lt_of_lt h)
    simp [readString]
  | cons c t ih =>
    obtain ⟨fuel, rfl⟩ := Nat.exists_eq_add_one.2 (Nat.zero_lt_of_lt h)
    rw [List.flatMap_cons, List.append_assoc, readString_writeChar,
      ih (by simpa using h)]
    rfl

/-! ### Integers -/

/-- The text ends, or a comma or a closing bracket comes next. -/
def Closed : Text → Prop
  | [] => True
  | c :: _ => c = ',' ∨ c = ']' ∨ c = '}'

lemma readAfterInteger_closed (negative : Bool) (n : ℕ) {rest : Text} (hr : Closed rest) :
    readAfterInteger negative n rest = .ok (finishInteger negative n, rest) := by
  cases rest with
  | nil => rfl
  | cons c t => rcases hr with rfl | rfl | rfl <;> rfl

lemma not_isDigit_of_closed {c : Char} {t : Text} (hr : Closed (c :: t)) : c.isDigit = false := by
  rcases hr with rfl | rfl | rfl <;> rfl

lemma le_ofDigitChars (ds : Text) (acc : ℕ) : acc ≤ Nat.ofDigitChars 10 ds acc := by
  induction ds generalizing acc with
  | nil => simp
  | cons c ds ih =>
    rw [Nat.ofDigitChars_cons]
    have := ih (10 * acc + (c.toNat - '0'.toNat))
    omega

/-- Digits are read to the end, if their number fits. -/
lemma readIntegerDigits_append (negative : Bool) {ds : Text} (hd : ∀ c ∈ ds, c.isDigit = true)
    {acc : ℕ} (hn : Nat.ofDigitChars 10 ds acc < significandBound) {rest : Text}
    (hr : Closed rest) :
    readIntegerDigits negative acc (ds ++ rest) =
      .ok (finishInteger negative (Nat.ofDigitChars 10 ds acc), rest) := by
  induction ds generalizing acc with
  | nil =>
    rw [Nat.ofDigitChars_nil, List.nil_append]
    cases rest with
    | nil => rfl
    | cons c t =>
      rw [readIntegerDigits, not_isDigit_of_closed hr]
      exact readAfterInteger_closed negative acc hr
  | cons c ds ih =>
    rw [Nat.ofDigitChars_cons] at hn ⊢
    have hnext : acc * 10 + digitValue c = 10 * acc + (c.toNat - '0'.toNat) := by
      rw [Nat.mul_comm]
      rfl
    have hlt : acc * 10 + digitValue c < significandBound := by
      rw [hnext]
      exact Nat.lt_of_le_of_lt (le_ofDigitChars ds _) hn
    rw [List.cons_append, readIntegerDigits, if_pos (hd c List.mem_cons_self)]
    simp only [if_pos hlt]
    rw [hnext]
    exact ih (fun d hd' => hd d (List.mem_cons_of_mem _ hd')) hn

/-- A numeral has no zero at its front, unless it is zero. -/
lemma toDigits_eq_cons {n : ℕ} (hn : n ≠ 0) : ∃ c t, Nat.toDigits 10 n = c :: t ∧ c ≠ '0' := by
  induction n using Nat.strongRecOn with
  | _ n ih =>
    rcases Nat.lt_or_ge n 10 with h | h
    · refine ⟨n.digitChar, [], Nat.toDigits_of_lt_base h, ?_⟩
      have : ∀ m < 10, m ≠ 0 → Nat.digitChar m ≠ '0' := by decide
      exact this n h hn
    · obtain ⟨c, t, ht, hc⟩ := ih (n / 10) (by omega) (by omega)
      refine ⟨c, t ++ [(n % 10).digitChar], ?_, hc⟩
      rw [Nat.toDigits_of_base_le (by decide) h, ht, List.cons_append]

/-- **A numeral is read back**, behind either sign. -/
theorem readNumber_ofNat (negative : Bool) {n : ℕ} (hn : n < significandBound) {rest : Text}
    (hr : Closed rest) :
    readNumber negative (Text.ofNat n ++ rest) = .ok (finishInteger negative n, rest) := by
  unfold Text.ofNat
  rcases Nat.eq_zero_or_pos n with rfl | hpos
  · rw [Nat.toDigits_zero]
    cases rest with
    | nil => rfl
    | cons c t =>
      show (if c.isDigit = true then _ else readAfterInteger negative 0 (c :: t)) = _
      rw [not_isDigit_of_closed hr]
      exact readAfterInteger_closed negative 0 hr
  · obtain ⟨c, t, ht, hc⟩ := toDigits_eq_cons (Nat.pos_iff_ne_zero.1 hpos)
    have hd : ∀ d ∈ c :: t, d.isDigit = true := fun d hd =>
      Nat.isDigit_of_mem_toDigits (by decide) (by decide) (ht ▸ hd)
    have hv : Nat.ofDigitChars 10 t (digitValue c) = n := by
      have := Nat.ofDigitChars_ten_toDigits (n := n)
      rw [ht, Nat.ofDigitChars_cons] at this
      simpa [digitValue] using this
    rw [ht, List.cons_append, readNumber, if_pos (hd c List.mem_cons_self)]
    · rw [readIntegerDigits_append negative (fun d h => hd d (List.mem_cons_of_mem _ h))
        (hv ▸ hn) hr, hv]
    · exact hc

end TextSieve.Json
