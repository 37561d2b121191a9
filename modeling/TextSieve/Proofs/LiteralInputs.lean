import TextSieve.Proofs.ExitCodes

/-!
The inputs of a check on the command line. Each argument behind the subcommand is taken, is the
first input, or is refused, and which of these does not depend on what follows it. So whatever asks
for a check without inputs goes on to mean the same when inputs are added; and behind the first of
them, which does not begin with a dash, nothing is an option any more.
-/

namespace TextSieve.Command

section Results

variable {ε α β : Type} {r : Except ε α} {b : β}

lemma exists_of_bind_eq_ok {f : α → Except ε β} (h : (r >>= f) = .ok b) :
    ∃ a, r = .ok a ∧ f a = .ok b := by
  cases r with
  | error e => cases h
  | ok a => exact ⟨a, rfl, h⟩

lemma exists_of_map_eq_ok {f : α → β} (h : r.map f = .ok b) : ∃ a, r = .ok a ∧ f a = b := by
  cases r with
  | error e => cases h
  | ok a => exact ⟨a, rfl, Except.ok.inj h⟩

end Results

/-- The argument begins with a dash. -/
def IsDashed (argument : Text) : Prop := argument.head? = some '-'

instance (argument : Text) : Decidable (IsDashed argument) :=
  inferInstanceAs (Decidable (argument.head? = some '-'))

namespace Scan

section Scan

variable {scope : Scope} {s s' : Scan} {x : Text}

/-! ### Looking at what is pending -/

lemma isAwaiting_of_settle (h : s.settle = .ok s') : s.isAwaiting = false := by
  obtain ⟨settings, filter, pending, literal⟩ := s
  cases pending with
  | awaiting flag => cases h
  | _ => rfl

/-- Whether the path has been given is not changed by looking at what is pending. -/
lemma hasFilter_of_settle (h : s.settle = .ok s') : s.hasFilter = s'.filter.isSome := by
  obtain ⟨settings, filter, pending, literal⟩ := s
  cases pending with
  | nothing =>
    cases h
    rfl
  | awaiting flag => cases h
  | value flag v =>
    obtain ⟨settings', -, rfl⟩ := exists_of_map_eq_ok h
    rfl
  | filter path =>
    unfold settle at h
    dsimp only at h
    split at h
    · cases h
    · cases h
      rfl

/-! ### One argument -/

lemma readFlag_of_not_dashed (hx : ¬ IsDashed x) : readFlag scope s x = .ok none := by
  unfold readFlag
  split
  · exact absurd rfl hx
  · exact absurd rfl hx
  · rfl

/-- An argument without a dash is an operand, unless an option waits for its value. -/
lemma readArgument_of_not_dashed (hx : ¬ IsDashed x) (hs : s.isAwaiting = false) :
    readArgument scope s x = .ok none := by
  have hescape : x ≠ "--".toList := by
    rintro rfl
    exact hx rfl
  unfold readArgument
  rw [if_neg hescape, readFlag_of_not_dashed hx]
  split
  · rfl
  · obtain ⟨settings, filter, pending, literal⟩ := s
    cases pending with
    | awaiting flag => cases hs
    | _ => rfl

/-- **One argument behind a subcommand.** It is taken, or is the first input, or is refused,
whatever follows it. -/
lemma readSubcommand_cons_cases (scope : Scope) (s : Scan) (argument : Text) :
    (∃ s', ∀ rest, readSubcommand scope s (argument :: rest) = readSubcommand scope s' rest) ∨
      (∃ s', ∀ rest, readSubcommand scope s (argument :: rest) = .ok (s', argument :: rest)) ∨
      ∃ e, ∀ rest, readSubcommand scope s (argument :: rest) = .error e := by
  simp only [readSubcommand]
  cases readArgument scope s argument with
  | error e => exact Or.inr (Or.inr ⟨e, fun _ => rfl⟩)
  | ok taken =>
    cases taken with
    | some s' => exact Or.inl ⟨s', fun _ => rfl⟩
    | none =>
      cases s.hasFilter with
      | false =>
        cases s.settle with
        | error e => exact Or.inr (Or.inr ⟨e, fun _ => rfl⟩)
        | ok s' => exact Or.inl ⟨{ s' with pending := .filter argument }, fun _ => rfl⟩
      | true =>
        by_cases hscope : scope = .check
        · subst hscope
          cases s.settle with
          | error e => exact Or.inr (Or.inr ⟨e, fun _ => rfl⟩)
          | ok s' => exact Or.inr (Or.inl ⟨s', fun _ => rfl⟩)
        · exact Or.inr (Or.inr ⟨.unknownArgument argument, fun _ => if_neg hscope⟩)

/-! ### All arguments behind a subcommand -/

/-- Where the path has been given, an argument without a dash is the first input. -/
lemma readSubcommand_input (h : s.settle = .ok s') (hfilter : s'.filter.isSome = true)
    (hx : ¬ IsDashed x) (rest : List Text) :
    readSubcommand .check s (x :: rest) = .ok (s', x :: rest) := by
  simp only [readSubcommand, readArgument_of_not_dashed hx (isAwaiting_of_settle h),
    hasFilter_of_settle h, hfilter, h]
  rfl

/-- **Inputs behind a check without inputs.** By induction on the arguments of the check, each of
which has been taken. -/
lemma readSubcommand_append {arguments : List Text}
    (h : readSubcommand .check s arguments = .ok (s', [])) (hfilter : s'.filter.isSome = true)
    (hx : ¬ IsDashed x) (rest : List Text) :
    readSubcommand .check s (arguments ++ x :: rest) = .ok (s', x :: rest) := by
  induction arguments generalizing s with
  | nil =>
    rw [readSubcommand] at h
    obtain ⟨s'', hsettle, heq⟩ := exists_of_map_eq_ok h
    cases heq
    exact readSubcommand_input hsettle hfilter hx rest
  | cons a arguments ih =>
    rw [List.cons_append]
    rcases readSubcommand_cons_cases .check s a with ⟨s₁, hs⟩ | ⟨s₁, hs⟩ | ⟨e, hs⟩
    · rw [hs] at h ⊢
      exact ih h
    · rw [hs] at h
      cases h
    · rw [hs] at h
      cases h

end Scan

end Scan

namespace Invocation

/-! ### The command line -/

/-- **One argument before the subcommand.** It is taken, or names the subcommand, or is refused; but
what is said of a refused one may depend on what follows. -/
lemma readRoot_cons_cases (s : Scan) (argument : Text) :
    (∃ s', ∀ rest, readRoot s (argument :: rest) = readRoot s' rest) ∨
      (∃ scope, ∀ rest, readRoot s (argument :: rest) = ofSubcommand s scope rest) ∨
      ∀ rest, ∃ e, readRoot s (argument :: rest) = .error e := by
  simp only [readRoot]
  split
  · next scope _ => exact Or.inr (Or.inl ⟨scope, fun _ => rfl⟩)
  · split
    · exact Or.inr (Or.inr fun rest => ⟨helpOn rest, rfl⟩)
    · cases s.readArgument .root argument with
      | error e => exact Or.inr (Or.inr fun _ => ⟨e, rfl⟩)
      | ok taken =>
        cases taken with
        | some s' => exact Or.inl ⟨s', fun _ => rfl⟩
        | none =>
          refine Or.inr (Or.inr fun _ => ?_)
          simp only [bind, Except.bind]
          split <;> exact ⟨_, rfl⟩

lemma taskOf_eq_check {scope : Scope} {inputs inputs' : List Text}
    (h : taskOf scope inputs = .check inputs') : scope = .check ∧ inputs = inputs' := by
  unfold taskOf at h
  split at h
  · next hscope => exact ⟨hscope, Task.check.inj h⟩
  · cases h

section Append

variable {arguments : List Text} {i : Invocation} {x : Text}

/-- A subcommand that is a check without inputs stays the same check when inputs are added. -/
lemma ofSubcommand_append {outer : Scan} {scope : Scope}
    (h : ofSubcommand outer scope arguments = .ok i) (hi : i.task = .check []) (hx : ¬ IsDashed x)
    (rest : List Text) :
    ofSubcommand outer scope (arguments ++ x :: rest) = .ok (i.checking (x :: rest)) := by
  unfold ofSubcommand at h ⊢
  obtain ⟨⟨inner, inputs⟩, hread, h⟩ := exists_of_bind_eq_ok h
  dsimp only at h
  cases hfilter : inner.filter with
  | none =>
    rw [hfilter] at h
    cases h
  | some filter =>
    rw [hfilter] at h
    obtain ⟨outer', houter, h⟩ := exists_of_bind_eq_ok h
    cases h
    obtain ⟨rfl, rfl⟩ := taskOf_eq_check hi
    have happend := Scan.readSubcommand_append hread (by rw [hfilter]; rfl) hx rest
    simp only [happend, houter, bind, Except.bind, hfilter]
    rfl

/-- A command line that asks for a check without inputs asks for the same check when inputs are
added. By induction on the arguments up to the subcommand, each of which has been taken. -/
lemma readRoot_append {s : Scan} (h : readRoot s arguments = .ok i) (hi : i.task = .check [])
    (hx : ¬ IsDashed x) (rest : List Text) :
    readRoot s (arguments ++ x :: rest) = .ok (i.checking (x :: rest)) := by
  induction arguments generalizing s with
  | nil =>
    rw [readRoot] at h
    obtain ⟨s', -, h⟩ := exists_of_bind_eq_ok h
    cases h
  | cons a arguments ih =>
    rw [List.cons_append]
    rcases readRoot_cons_cases s a with ⟨s', hs⟩ | ⟨scope, hs⟩ | hs
    · rw [hs] at h ⊢
      exact ih h
    · rw [hs] at h ⊢
      exact ofSubcommand_append h hi hx rest
    · obtain ⟨e, he⟩ := hs arguments
      rw [he] at h
      cases h

/-- **From the first input on all is literal.** Let a command line ask for a check without inputs,
with whatever options on either side of the subcommand and of the path, perhaps with `--` at its
end. If an argument follows that does not begin with a dash, it and all that come after it, be they
options, empty, or `--`, are the inputs of a check that is the same in all else. -/
theorem inputs_literal (h : ofArguments arguments = .ok i) (hi : i.task = .check [])
    (hx : ¬ IsDashed x) (rest : List Text) :
    ofArguments (arguments ++ x :: rest) = .ok (i.checking (x :: rest)) :=
  readRoot_append h hi hx rest

/-- Options in several spellings on all sides of the path, and inputs that look like options. -/
theorem inputs_literal_options :
    let arguments : List Text := ["--color=never".toList, "check".toList, "-vo".toList,
      "jsonl".toList, "f.toml".toList, "--skip-invalid".toList, "--format".toList, "json".toList]
    let rest : List Text := ["-v".toList, "--".toList, "--help".toList, [], "--color".toList]
    let i : Invocation := ⟨.check [], "f.toml".toList, true, .json, .jsonl, .never, true⟩
    ofArguments arguments = .ok i ∧ i.task = .check [] ∧ ¬ IsDashed [] ∧
      ofArguments (arguments ++ [] :: rest) = .ok (i.checking ([] :: rest)) := by
  intro arguments rest i
  have h : ofArguments arguments = .ok i := rfl
  have hx : ¬ IsDashed [] := by decide
  exact ⟨h, rfl, hx, inputs_literal h rfl hx rest⟩

end Append

end Invocation

end TextSieve.Command
