import TextSieve.Proofs.JsonTokens

/-!
The characters of compact JSON. Strings escape all characters below the blank, and nothing else
that is written has any: the JSON of a tree, whatever texts and numbers are in it, stands on one
line.
-/

namespace TextSieve

/-! ### Texts without control characters -/

namespace Text

/-- No character of the text stands below the blank. -/
def Plain (t : Text) : Prop := ∀ c ∈ t, 0x20 ≤ c.toNat

instance (t : Text) : Decidable (Plain t) := List.decidableBAll _ t

@[simp] lemma plain_nil : Plain [] := nofun

@[simp] lemma plain_cons {c : Char} {t : Text} : Plain (c :: t) ↔ 0x20 ≤ c.toNat ∧ Plain t :=
  List.forall_mem_cons

@[simp] lemma plain_append {s t : Text} : Plain (s ++ t) ↔ Plain s ∧ Plain t :=
  List.forall_mem_append

lemma Plain.not_mem {t : Text} (h : Plain t) {c : Char} (hc : c.toNat < 0x20) : c ∉ t := by
  intro hmem
  exact absurd (h c hmem) (Nat.not_le.2 hc)

/-- A control character between plain texts stands in what is between them. -/
lemma Plain.mem_between {front back t : Text} (hfront : Plain front) (hback : Plain back) {c : Char}
    (hc : c.toNat < 0x20) (h : c ∈ front ++ t ++ back) : c ∈ t := by
  rcases List.mem_append.1 h with h | h
  · exact (List.mem_append.1 h).resolve_left (hfront.not_mem hc)
  · exact absurd h (hback.not_mem hc)

lemma plain_replicate {c : Char} (hc : 0x20 ≤ c.toNat) (n : ℕ) : Plain (List.replicate n c) := by
  intro d hd
  obtain rfl := List.eq_of_mem_replicate hd
  exact hc

lemma plain_ofNat (n : ℕ) : Plain (ofNat n) := by
  intro c hc
  have hd : c.isDigit = true := Nat.isDigit_of_mem_toDigits (by decide) (by decide) hc
  have h0 := (Char.isDigit_iff_toNat.1 hd).1
  have hz : '0'.toNat = 48 := rfl
  omega

end Text

namespace Json

open Text

/-! ### Strings and numbers -/

lemma plain_escapeControl {c : Char} (hc : c.toNat < 0x20) : Plain (escapeControl c) := by
  have hdigit : ∀ n < 16, 0x20 ≤ (Nat.digitChar n).toNat := by decide
  have he := (escapeControl_eq c.toNat hc).1
  rw [Char.ofNat_toNat] at he
  rw [he]
  simp only [plain_cons, plain_nil, and_true]
  exact ⟨by decide, by decide, by decide, by decide, hdigit _ (by omega), hdigit _ (by omega)⟩

lemma plain_writeChar (c : Char) : Plain (writeChar c) := by
  unfold writeChar
  split_ifs with hq hb hn hr ht h8 hf hc
  · simp
  · simp
  · simp
  · simp
  · simp
  · simp
  · simp
  · exact plain_escapeControl hc
  · simp only [plain_cons, plain_nil, and_true]
    omega

lemma plain_writeString (t : Text) : Plain (writeString t) := by
  have h : Plain (t.flatMap writeChar) := by
    intro c hc
    obtain ⟨d, -, hd⟩ := List.mem_flatMap.1 hc
    exact plain_writeChar d c hd
  unfold writeString
  simp [h]

lemma plain_writeInt (i : Int) : Plain (writeInt i) := by
  cases i with
  | ofNat n => exact plain_ofNat n
  | negSucc n => simp [writeInt, plain_ofNat]

lemma plain_withPoint {digits : Text} (h : Plain digits) (n : Int) :
    Plain (withPoint digits n) := by
  have hzeros : ∀ k, Plain (List.replicate k '0') := plain_replicate (by decide)
  unfold withPoint
  split_ifs
  · simp [h, hzeros]
  · simp [h, hzeros]
  · have htake : Plain (digits.take n.toNat) := fun c hc => h c (List.mem_of_mem_take hc)
    have hdrop : Plain (digits.drop n.toNat) := fun c hc => h c (List.mem_of_mem_drop hc)
    simp [htake, hdrop]

lemma plain_withExponent {digits : Text} (h : Plain digits) (magnitude : Int) :
    Plain (withExponent digits magnitude) := by
  unfold withExponent
  have hsign : 0x20 ≤ (if magnitude < 0 then '-' else '+').toNat := by split <;> decide
  split
  · simp_all [plain_ofNat]
  · simp [h, hsign, plain_ofNat]

lemma plain_writeFloat (x : Binary64) : Plain (writeFloat x) := by
  have hsign : Plain (if x.negative then "-" else "" : Text) := by split <;> simp
  simp only [writeFloat]
  by_cases hz : x.isZero = true
  · rw [if_pos hz]
    exact plain_append.2 ⟨hsign, by simp⟩
  · rw [if_neg hz]
    refine plain_append.2 ⟨hsign, ?_⟩
    split
    · exact plain_withPoint (plain_ofNat _) _
    · exact plain_withExponent (plain_ofNat _) _

/-! ### Trees -/

mutual

/-- **Compact JSON has no control characters.** By induction on the tree, with its lists of items
and of members. -/
theorem plain_write : ∀ v : Value, Plain (write v)
  | .null => by simp [write]
  | .bool b => by cases b <;> simp [write, ofBool]
  | .int i => plain_writeInt i
  | .float x => plain_writeFloat x
  | .str t => plain_writeString t
  | .arr vs => by
    have h := plain_writeItems vs
    simp [write, h]
  | .obj ms => by
    have h := plain_writeMembers ms
    simp [write, h]

lemma plain_writeItems : ∀ vs : List Value, Plain (writeItems vs)
  | [] => plain_nil
  | [v] => plain_write v
  | v :: w :: vs => by
    have hv := plain_write v
    have hvs := plain_writeItems (w :: vs)
    simp [writeItems, hv, hvs]

lemma plain_writeMembers : ∀ ms : List (Text × Value), Plain (writeMembers ms)
  | [] => plain_nil
  | [(k, v)] => by
    have hv := plain_write v
    simp [writeMembers, plain_writeString, hv]
  | (k, v) :: m :: ms => by
    have hv := plain_write v
    have hms := plain_writeMembers (m :: ms)
    simp [writeMembers, plain_writeString, hv, hms]

end

end Json

end TextSieve
