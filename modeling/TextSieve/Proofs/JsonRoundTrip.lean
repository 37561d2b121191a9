import TextSieve.Proofs.JsonTokens

/-!
Trees that JSON gives back. A tree is legible if it has no binary numbers, its integers have 64
bits, its members are in order, and its containers are not nested too deeply. Reading what was
written for a legible tree gives the tree: `read_write`.
-/

namespace TextSieve

/-! ### Members in order -/

namespace Keyed

variable {α : Type}

/-- What is put in behind all keys goes to the end. -/
lemma put_of_lt {es : List (Text × α)} {key : Text} (h : ∀ e ∈ es, e.1 < key) (v : α) :
    put key v es = es ++ [(key, v)] := by
  induction es with
  | nil => rfl
  | cons e es ih =>
    have he : e.1 < key := h e List.mem_cons_self
    have hne : key ≠ e.1 := fun h' => List.lt_irrefl key (by rw [← h'] at he; exact he)
    rw [put, if_neg (List.lt_asymm he), if_neg hne,
      ih fun d hd => h d (List.mem_cons_of_mem _ hd)]
    rfl

lemma foldl_put_of_sorted {acc es : List (Text × α)} (h : Sorted (acc ++ es)) :
    es.foldl (fun acc m => put m.1 m.2 acc) acc = acc ++ es := by
  induction es generalizing acc with
  | nil => simp
  | cons e es ih =>
    have hlt : ∀ d ∈ acc, d.1 < e.1 := fun d hd =>
      (List.pairwise_append.1 h).2.2 d hd e List.mem_cons_self
    rw [List.foldl_cons, put_of_lt hlt, ih (by simpa using h)]
    simp

lemma sorted_foldl_put {acc : List (Text × α)} (h : Sorted acc) (es : List (Text × α)) :
    Sorted (es.foldl (fun acc m => put m.1 m.2 acc) acc) := by
  induction es generalizing acc with
  | nil => exact h
  | cons e es ih => exact ih (h.put e.1 e.2)

lemma mem_of_mem_foldl_put {acc es : List (Text × α)} {e : Text × α}
    (h : e ∈ es.foldl (fun acc m => put m.1 m.2 acc) acc) : e ∈ acc ∨ e ∈ es := by
  induction es generalizing acc with
  | nil => exact Or.inl h
  | cons f es ih =>
    rcases ih h with h | h
    · rcases mem_put h with rfl | h
      · exact Or.inr List.mem_cons_self
      · exact Or.inl h
    · exact Or.inr (List.mem_cons_of_mem _ h)

end Keyed

/-- An object of members that are in order is left as it is. -/
lemma Value.ofMembers_of_sorted {members : List (Text × Value)} (h : Keyed.Sorted members) :
    Value.ofMembers members = .obj members := by
  unfold Value.ofMembers
  rw [Keyed.foldl_put_of_sorted (by simpa using h), List.nil_append]

namespace Json

/-! ### Legible trees -/

/-- The tree can be read back where the given number of containers may still be opened. -/
inductive Legible : ℕ → Value → Prop
  | null {d : ℕ} : Legible d .null
  | bool {d : ℕ} {b : Bool} : Legible d (.bool b)
  | int {d : ℕ} {i : Int} (lower : -(Nat.pow 2 63 : ℕ) ≤ i) (upper : i < (Nat.pow 2 64 : ℕ)) :
      Legible d (.int i)
  | str {d : ℕ} {t : Text} : Legible d (.str t)
  | arr {d : ℕ} {items : List Value} (legible : ∀ v ∈ items, Legible (d + 1) v) :
      Legible (d + 2) (.arr items)
  | obj {d : ℕ} {members : List (Text × Value)} (sorted : Keyed.Sorted members)
      (legible : ∀ m ∈ members, Legible (d + 1) m.2) : Legible (d + 2) (.obj members)

/-- An object of legible members in any order is legible. -/
lemma Legible.ofMembers {d : ℕ} {members : List (Text × Value)}
    (h : ∀ m ∈ members, Legible (d + 1) m.2) : Legible (d + 2) (.ofMembers members) := by
  refine .obj (Keyed.sorted_foldl_put List.Pairwise.nil members) fun m hm => ?_
  rcases Keyed.mem_of_mem_foldl_put hm with hm | hm
  · cases hm
  · exact h m hm

/-! ### Single steps of the reader -/

lemma skipSpace_cons {c : Char} (h : isSpace c = false) (t : Text) :
    skipSpace (c :: t) = c :: t := by
  unfold skipSpace
  rw [List.dropWhile_cons, h]
  rfl

lemma isSpace_of_isDigit {c : Char} (h : c.isDigit = true) : isSpace c = false := by
  unfold isSpace
  rw [Char.isDigit_iff_toNat] at h
  have hne : ∀ d : Char, d.toNat < '0'.toNat → (c == d) = false := by
    intro d hd
    rw [beq_eq_false_iff_ne]
    rintro rfl
    omega
  rw [hne ' ' (by decide), hne '\n' (by decide), hne '\t' (by decide), hne '\r' (by decide)]
  rfl

/-- The text starts with a character that is neither a blank nor the end of an array. -/
def Starts (s : Text) : Prop := ∃ c t, s = c :: t ∧ isSpace c = false ∧ c ≠ ']'

lemma Starts.append {s : Text} (h : Starts s) (t : Text) : Starts (s ++ t) := by
  obtain ⟨c, u, rfl, hs, hc⟩ := h
  exact ⟨c, u ++ t, rfl, hs, hc⟩

section Steps

variable {fuel depth : ℕ} {s t u : Text}

lemma readValue_digit {c : Char} (h : c.isDigit = true) :
    readValue (fuel + 1) depth (c :: t) = readNumber false (c :: t) := by
  rw [readValue, skipSpace_cons (isSpace_of_isDigit h)]
  split <;> simp_all

lemma readValue_null : readValue (fuel + 1) depth ("null".toList ++ t) = .ok (.null, t) := by
  rw [readValue]
  rfl

lemma readValue_bool (b : Bool) :
    readValue (fuel + 1) depth (Text.ofBool b ++ t) = .ok (.bool b, t) := by
  rw [readValue]
  cases b <;> rfl

lemma readValue_minus : readValue (fuel + 1) depth ('-' :: t) = readNumber true t := by
  rw [readValue]
  rfl

lemma readValue_quote :
    readValue (fuel + 1) depth ('"' :: t) =
      (readString fuel t).map fun p => (.str p.1, p.2) := by
  rw [readValue]
  change (readString fuel t >>= fun p => .ok (Value.str p.1, p.2)) = _
  cases readString fuel t <;> rfl

lemma readValue_arr :
    readValue (fuel + 1) (depth + 2) ('[' :: t) =
      (readItems fuel (depth + 1) true t).map fun p => (.arr p.1, p.2) := by
  rw [readValue]
  change (readItems fuel (depth + 1) true t >>= fun p => .ok (Value.arr p.1, p.2)) = _
  cases readItems fuel (depth + 1) true t <;> rfl

lemma readValue_obj :
    readValue (fuel + 1) (depth + 2) ('{' :: t) =
      (readMembers fuel (depth + 1) true t).map fun p => (.ofMembers p.1, p.2) := by
  rw [readValue]
  change (readMembers fuel (depth + 1) true t >>= fun p => .ok (Value.ofMembers p.1, p.2)) = _
  cases readMembers fuel (depth + 1) true t <;> rfl

lemma readItems_end (first : Bool) :
    readItems (fuel + 1) depth first (']' :: t) = .ok ([], t) := by
  rw [readItems]
  rfl

lemma readValue_bind_readItems {v : Value} {vs : List Value}
    (hv : readValue fuel depth s = .ok (v, t)) (hvs : readItems fuel depth false t = .ok (vs, u)) :
    (readValue fuel depth s >>= fun p => readItems fuel depth false p.2 >>= fun q =>
      Except.ok (p.1 :: q.1, q.2)) = .ok (v :: vs, u) := by
  rw [hv]
  change (readItems fuel depth false t >>= fun q => .ok (v :: q.1, q.2)) = _
  rw [hvs]
  rfl

lemma readItems_first {v : Value} {vs : List Value} (h : Starts s)
    (hv : readValue fuel depth s = .ok (v, t)) (hvs : readItems fuel depth false t = .ok (vs, u)) :
    readItems (fuel + 1) depth true s = .ok (v :: vs, u) := by
  obtain ⟨c, s, rfl, hs, hc⟩ := h
  rw [readItems, skipSpace_cons hs]
  split
  · next h => cases h
  · next h => exact absurd (List.cons.inj h).1 hc
  · next h =>
    obtain ⟨rfl, rfl⟩ := List.cons.inj h
    rw [if_pos rfl]
    exact readValue_bind_readItems hv hvs

lemma readItems_more {v : Value} {vs : List Value} (h : Starts s)
    (hv : readValue fuel depth s = .ok (v, t)) (hvs : readItems fuel depth false t = .ok (vs, u)) :
    readItems (fuel + 1) depth false (',' :: s) = .ok (v :: vs, u) := by
  obtain ⟨c, s, rfl, hs, hc⟩ := h
  rw [readItems, skipSpace_cons (by decide)]
  split
  · next h => cases h
  · next h => exact absurd (List.cons.inj h).1 (by decide)
  · next h =>
    obtain ⟨rfl, rfl⟩ := List.cons.inj h
    rw [if_neg (by decide), if_pos rfl, skipSpace_cons hs]
    split
    · next h => cases h
    · next h => exact absurd (List.cons.inj h).1 hc
    · exact readValue_bind_readItems hv hvs

lemma readMembers_end (first : Bool) :
    readMembers (fuel + 1) depth first ('}' :: t) = .ok ([], t) := by
  rw [readMembers]
  rfl

lemma readMember_bind_readMembers {m : Text × Value} {ms : List (Text × Value)}
    (hm : readMember fuel depth s = .ok (m, t))
    (hms : readMembers fuel depth false t = .ok (ms, u)) :
    (readMember fuel depth s >>= fun p => readMembers fuel depth false p.2 >>= fun q =>
      Except.ok (p.1 :: q.1, q.2)) = .ok (m :: ms, u) := by
  rw [hm]
  change (readMembers fuel depth false t >>= fun q => .ok (m :: q.1, q.2)) = _
  rw [hms]
  rfl

lemma readMembers_first {m : Text × Value} {ms : List (Text × Value)}
    (hm : readMember fuel depth s = .ok (m, t))
    (hms : readMembers fuel depth false t = .ok (ms, u)) :
    readMembers (fuel + 1) depth true ('"' :: s) = .ok (m :: ms, u) := by
  rw [readMembers]
  exact readMember_bind_readMembers hm hms

lemma readMembers_more {m : Text × Value} {ms : List (Text × Value)}
    (hm : readMember fuel depth s = .ok (m, t))
    (hms : readMembers fuel depth false t = .ok (ms, u)) :
    readMembers (fuel + 1) depth false (',' :: '"' :: s) = .ok (m :: ms, u) := by
  rw [readMembers]
  exact readMember_bind_readMembers hm hms

end Steps

/-! ### Items and members behind the first -/

/-- The text of the items that follow others. -/
def itemsBehind (vs : List Value) : Text := vs.flatMap fun v => ',' :: write v

/-- The text of a member. -/
def writeMember (m : Text × Value) : Text := writeString m.1 ++ ':' :: write m.2

lemma length_writeMember_pos (m : Text × Value) : 0 < (writeMember m).length := by
  simp [writeMember, writeString]

/-- The text of the members that follow others. -/
def membersBehind (ms : List (Text × Value)) : Text := ms.flatMap fun m => ',' :: writeMember m

lemma writeItems_cons (v : Value) (vs : List Value) :
    writeItems (v :: vs) = write v ++ itemsBehind vs := by
  induction vs generalizing v with
  | nil => simp [writeItems, itemsBehind]
  | cons w vs ih =>
    rw [writeItems, ih]
    rfl

lemma writeMembers_cons (m : Text × Value) (ms : List (Text × Value)) :
    writeMembers (m :: ms) = writeMember m ++ membersBehind ms := by
  induction ms generalizing m with
  | nil => simp [writeMembers, writeMember, membersBehind]
  | cons n ms ih =>
    rw [writeMembers, ih]
    simp [writeMember, membersBehind]

lemma closed_itemsBehind (vs : List Value) (rest : Text) :
    Closed (itemsBehind vs ++ ']' :: rest) := by
  cases vs with
  | nil => exact Or.inr (Or.inl rfl)
  | cons v vs => exact Or.inl rfl

lemma closed_membersBehind (ms : List (Text × Value)) (rest : Text) :
    Closed (membersBehind ms ++ '}' :: rest) := by
  cases ms with
  | nil => exact Or.inr (Or.inr rfl)
  | cons m ms => exact Or.inl rfl

/-! ### Reading back -/

/-- The tree is read back from its text, whatever closed text follows. -/
structure ReadsBack (depth : ℕ) (v : Value) : Prop where
  starts : Starts (write v)
  read : ∀ {fuel : ℕ} {rest : Text}, (write v).length ≤ fuel → Closed rest →
    readValue fuel depth (write v ++ rest) = .ok (v, rest)

lemma ReadsBack.length_pos {depth : ℕ} {v : Value} (h : ReadsBack depth v) :
    0 < (write v).length := by
  obtain ⟨c, t, hw, -⟩ := h.starts
  simp [hw]

section Lists

variable {depth : ℕ}

lemma readItems_behind {vs : List Value} (h : ∀ v ∈ vs, ReadsBack depth v) {fuel : ℕ}
    (hf : (itemsBehind vs).length < fuel) (rest : Text) :
    readItems fuel depth false (itemsBehind vs ++ ']' :: rest) = .ok (vs, rest) := by
  induction vs generalizing fuel with
  | nil =>
    obtain ⟨fuel, rfl⟩ := Nat.exists_eq_add_one.2 (show 0 < fuel by omega)
    exact readItems_end false
  | cons v vs ih =>
    obtain ⟨fuel, rfl⟩ := Nat.exists_eq_add_one.2 (show 0 < fuel by omega)
    have hv := h v List.mem_cons_self
    have hlen : (itemsBehind (v :: vs)).length =
        (write v).length + (itemsBehind vs).length + 1 := by
      simp [itemsBehind]
    have hpos := hv.length_pos
    rw [show itemsBehind (v :: vs) ++ ']' :: rest =
        ',' :: (write v ++ (itemsBehind vs ++ ']' :: rest)) by simp [itemsBehind]]
    exact readItems_more (hv.starts.append _) (hv.read (by omega) (closed_itemsBehind vs rest))
      (ih (fun w hw => h w (List.mem_cons_of_mem _ hw)) (by omega))

lemma readItems_write {vs : List Value} (h : ∀ v ∈ vs, ReadsBack depth v) {fuel : ℕ}
    (hf : (writeItems vs).length < fuel) (rest : Text) :
    readItems fuel depth true (writeItems vs ++ ']' :: rest) = .ok (vs, rest) := by
  obtain ⟨fuel, rfl⟩ := Nat.exists_eq_add_one.2 (show 0 < fuel by omega)
  cases vs with
  | nil => exact readItems_end true
  | cons v vs =>
    have hv := h v List.mem_cons_self
    have hlen := congrArg List.length (writeItems_cons v vs)
    rw [List.length_append] at hlen
    have hpos := hv.length_pos
    rw [writeItems_cons, List.append_assoc]
    exact readItems_first (hv.starts.append _) (hv.read (by omega) (closed_itemsBehind vs rest))
      (readItems_behind (fun w hw => h w (List.mem_cons_of_mem _ hw)) (by omega) rest)

/-- A member behind its opening quote. -/
lemma readMember_write {m : Text × Value} (h : ReadsBack depth m.2) {fuel : ℕ}
    (hf : (writeMember m).length ≤ fuel) {rest : Text} (hr : Closed rest) :
    readMember fuel depth (m.1.flatMap writeChar ++ '"' :: ':' :: (write m.2 ++ rest)) =
      .ok (m, rest) := by
  have hlen : (writeMember m).length = (m.1.flatMap writeChar).length + (write m.2).length + 3 := by
    simp [writeMember, writeString]
    omega
  have hkey := length_le_flatMap_writeChar m.1
  obtain ⟨fuel, rfl⟩ := Nat.exists_eq_add_one.2 (show 0 < fuel by omega)
  rw [readMember, readString_writeString (by omega)]
  change (readValue fuel depth (write m.2 ++ rest) >>= fun p => .ok ((m.1, p.1), p.2)) = _
  rw [h.read (by omega) hr]
  rfl

lemma readMembers_behind {ms : List (Text × Value)} (h : ∀ m ∈ ms, ReadsBack depth m.2)
    {fuel : ℕ} (hf : (membersBehind ms).length < fuel) (rest : Text) :
    readMembers fuel depth false (membersBehind ms ++ '}' :: rest) = .ok (ms, rest) := by
  induction ms generalizing fuel with
  | nil =>
    obtain ⟨fuel, rfl⟩ := Nat.exists_eq_add_one.2 (show 0 < fuel by omega)
    exact readMembers_end false
  | cons m ms ih =>
    obtain ⟨fuel, rfl⟩ := Nat.exists_eq_add_one.2 (show 0 < fuel by omega)
    have hlen : (membersBehind (m :: ms)).length =
        (writeMember m).length + (membersBehind ms).length + 1 := by
      simp [membersBehind]
    have hpos := length_writeMember_pos m
    rw [show membersBehind (m :: ms) ++ '}' :: rest = ',' :: '"' :: (m.1.flatMap writeChar ++
        '"' :: ':' :: (write m.2 ++ (membersBehind ms ++ '}' :: rest))) by
          simp [membersBehind, writeMember, writeString]]
    exact readMembers_more
      (readMember_write (h m List.mem_cons_self) (by omega) (closed_membersBehind ms rest))
      (ih (fun n hn => h n (List.mem_cons_of_mem _ hn)) (by omega))

lemma readMembers_write {ms : List (Text × Value)} (h : ∀ m ∈ ms, ReadsBack depth m.2)
    {fuel : ℕ} (hf : (writeMembers ms).length < fuel) (rest : Text) :
    readMembers fuel depth true (writeMembers ms ++ '}' :: rest) = .ok (ms, rest) := by
  obtain ⟨fuel, rfl⟩ := Nat.exists_eq_add_one.2 (show 0 < fuel by omega)
  cases ms with
  | nil => exact readMembers_end true
  | cons m ms =>
    have hlen := congrArg List.length (writeMembers_cons m ms)
    rw [List.length_append] at hlen
    have hpos := length_writeMember_pos m
    rw [show writeMembers (m :: ms) ++ '}' :: rest = '"' :: (m.1.flatMap writeChar ++
        '"' :: ':' :: (write m.2 ++ (membersBehind ms ++ '}' :: rest))) by
          simp [writeMembers_cons, writeMember, writeString]]
    exact readMembers_first
      (readMember_write (h m List.mem_cons_self) (by omega) (closed_membersBehind ms rest))
      (readMembers_behind (fun n hn => h n (List.mem_cons_of_mem _ hn)) (by omega) rest)

end Lists

/-! ### Trees -/

lemma ofNat_eq_cons (n : ℕ) : ∃ c t, Text.ofNat n = c :: t ∧ c.isDigit = true := by
  cases h : Text.ofNat n with
  | nil => exact absurd h Nat.toDigits_ne_nil
  | cons c t =>
    exact ⟨c, t, rfl, Nat.isDigit_of_mem_toDigits (by decide) (by decide)
      (show c ∈ Text.ofNat n from h ▸ List.mem_cons_self)⟩

lemma readsBack_int {depth : ℕ} {i : Int} (lower : -(Nat.pow 2 63 : ℕ) ≤ i)
    (upper : i < (Nat.pow 2 64 : ℕ)) : ReadsBack depth (.int i) := by
  cases i with
  | ofNat n =>
    obtain ⟨c, t, ht, hc⟩ := ofNat_eq_cons n
    have hw : write (.int (.ofNat n)) = Text.ofNat n := rfl
    refine ⟨⟨c, t, hw.trans ht, isSpace_of_isDigit hc, ?_⟩, fun {fuel rest} hf hr => ?_⟩
    · rintro rfl
      exact absurd hc (by decide)
    · rw [hw, ht] at hf ⊢
      obtain ⟨fuel, rfl⟩ := Nat.exists_eq_add_one.2 (show 0 < fuel by simp at hf; omega)
      rw [List.cons_append, readValue_digit hc, ← List.cons_append, ← ht,
        readNumber_ofNat false (Int.ofNat_lt.1 upper) hr]
      rfl
  | negSucc n =>
    have hw : write (.int (.negSucc n)) = '-' :: Text.ofNat (n + 1) := rfl
    refine ⟨⟨'-', _, hw, by decide, by decide⟩, fun {fuel rest} hf hr => ?_⟩
    rw [hw] at hf ⊢
    obtain ⟨fuel, rfl⟩ := Nat.exists_eq_add_one.2 (show 0 < fuel by simp at hf; omega)
    have hn : n + 1 ≤ Nat.pow 2 63 := by omega
    rw [List.cons_append, readValue_minus,
      readNumber_ofNat true (Nat.lt_of_le_of_lt hn (by decide)) hr]
    simp only [finishInteger, hn]
    rfl

/-- An object is read back with its members in order, whatever their order was. -/
lemma readValue_write_obj {depth : ℕ} {ms : List (Text × Value)}
    (h : ∀ m ∈ ms, ReadsBack (depth + 1) m.2) {fuel : ℕ} (hf : (write (.obj ms)).length ≤ fuel)
    (rest : Text) :
    readValue fuel (depth + 2) (write (.obj ms) ++ rest) = .ok (.ofMembers ms, rest) := by
  have hw : write (.obj ms) = '{' :: (writeMembers ms ++ ['}']) := rfl
  rw [hw] at hf ⊢
  simp only [List.length_cons, List.length_append, List.length_nil] at hf
  obtain ⟨fuel, rfl⟩ := Nat.exists_eq_add_one.2 (show 0 < fuel by omega)
  rw [List.cons_append, List.append_assoc, readValue_obj]
  exact congrArg (Except.map _) (readMembers_write h (by omega) rest)

/-- **A legible tree is read back.** By induction on why it is legible. -/
theorem Legible.readsBack {depth : ℕ} {v : Value} (h : Legible depth v) : ReadsBack depth v := by
  induction h with
  | null =>
    refine ⟨⟨'n', _, rfl, by decide, by decide⟩, fun {fuel rest} hf _ => ?_⟩
    obtain ⟨fuel, rfl⟩ := Nat.exists_eq_add_one.2 (show 0 < fuel by simp [write] at hf; omega)
    exact readValue_null
  | @bool d b =>
    have hw : write (.bool b) = Text.ofBool b := rfl
    refine ⟨by cases b <;> exact ⟨_, _, rfl, by decide, by decide⟩, fun {fuel rest} hf _ => ?_⟩
    have hpos : 0 < (Text.ofBool b).length := by cases b <;> decide
    rw [hw] at hf ⊢
    obtain ⟨fuel, rfl⟩ := Nat.exists_eq_add_one.2 (show 0 < fuel by omega)
    exact readValue_bool b
  | int lower upper => exact readsBack_int lower upper
  | @str d t =>
    have hw : write (.str t) = '"' :: (t.flatMap writeChar ++ ['"']) := rfl
    have hkey := length_le_flatMap_writeChar t
    refine ⟨⟨'"', _, hw, by decide, by decide⟩, fun {fuel rest} hf _ => ?_⟩
    rw [hw] at hf ⊢
    simp only [List.length_cons, List.length_append, List.length_nil] at hf
    obtain ⟨fuel, rfl⟩ := Nat.exists_eq_add_one.2 (show 0 < fuel by omega)
    rw [List.cons_append, List.append_assoc, readValue_quote]
    exact congrArg (Except.map _) (readString_writeString (by omega) rest)
  | @arr d vs _ ih =>
    have hw : write (.arr vs) = '[' :: (writeItems vs ++ [']']) := rfl
    refine ⟨⟨'[', _, hw, by decide, by decide⟩, fun {fuel rest} hf _ => ?_⟩
    rw [hw] at hf ⊢
    simp only [List.length_cons, List.length_append, List.length_nil] at hf
    obtain ⟨fuel, rfl⟩ := Nat.exists_eq_add_one.2 (show 0 < fuel by omega)
    rw [List.cons_append, List.append_assoc, readValue_arr]
    exact congrArg (Except.map _) (readItems_write ih (by omega) rest)
  | @obj d ms sorted _ ih =>
    refine ⟨⟨'{', _, rfl, by decide, by decide⟩, fun {fuel rest} hf _ => ?_⟩
    rw [readValue_write_obj ih hf rest, Value.ofMembers_of_sorted sorted]

/-- A text that is taken off as one value, with nothing left, is read as that value. -/
lemma read_of_readValue {s : Text} {v : Value}
    (h : readValue (3 * s.length + 3) maxDepth (s ++ []) = .ok (v, [])) : read s = .ok v := by
  rw [List.append_nil] at h
  unfold read readAll
  rw [h]
  rfl

/-- **Reading undoes writing.** -/
theorem read_write {v : Value} (h : Legible maxDepth v) : read (write v) = .ok v :=
  read_of_readValue (h.readsBack.read (by omega) trivial)

/-- What was written of an object is read with its members in order, whatever their order was. -/
theorem read_write_obj {ms : List (Text × Value)} (h : ∀ m ∈ ms, Legible 127 m.2) :
    read (write (.obj ms)) = .ok (.ofMembers ms) := by
  have hms : ∀ m ∈ ms, ReadsBack (126 + 1) m.2 := fun m hm => (h m hm).readsBack
  exact read_of_readValue (readValue_write_obj hms (by omega) [])

end Json

end TextSieve
