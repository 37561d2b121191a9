import TextSieve.Proofs.ListingLines
import TextSieve.Proofs.VerdictLines

/-!
What a terminal makes of a styled output. It takes in characters and escape sequences for styles,
and a text without escape characters has no such sequence in it. So an output for a terminal
becomes the output without styles when these sequences are deleted, and each style is taken back
behind the words it was set for.
-/

namespace TextSieve

namespace Styled

/-! ### What a terminal takes in -/

/-- What a terminal takes in at a time: a character, or a sequence that sets its style. -/
inductive Token where
  | char (c : Char)
  | style (code : Text)
  deriving DecidableEq

/-- The characters that codes consist of. -/
def isParameter (c : Char) : Bool := 0x30 ≤ c.toNat && c.toNat ≤ 0x3F

/-- Reads a sequence for a style at the beginning of a text: its code, and the text behind it. -/
def readStyle? : Text → Option (Text × Text)
  | '\x1b' :: '[' :: t =>
    match t.dropWhile isParameter with
    | 'm' :: rest => some (t.takeWhile isParameter, rest)
    | _ => none
  | _ => none

lemma length_lt_of_readStyle? {t code rest : Text} (h : readStyle? t = some (code, rest)) :
    rest.length < t.length := by
  unfold readStyle? at h
  split at h
  · next t =>
    split at h
    · next rest' hdrop =>
      obtain ⟨-, rfl⟩ := Prod.mk.inj (Option.some.inj h)
      have hlength := (List.dropWhile_suffix isParameter (l := t)).length_le
      rw [hdrop] at hlength
      simp only [List.length_cons] at hlength ⊢
      omega
    · cases h
  · cases h

/-- A text as a terminal takes it in. -/
def tokens : Text → List Token
  | [] => []
  | c :: t =>
    match h : readStyle? (c :: t) with
    | some (code, rest) =>
      have := length_lt_of_readStyle? h
      .style code :: tokens rest
    | none => .char c :: tokens t
termination_by t => t.length
decreasing_by
  · assumption
  · exact Nat.lt_succ_self _

lemma tokens_nil : tokens [] = [] := by
  rw [tokens]

lemma tokens_of_readStyle?_eq_none {c : Char} {t : Text} (h : readStyle? (c :: t) = none) :
    tokens (c :: t) = .char c :: tokens t := by
  rw [tokens]
  split
  · next hsome =>
    rw [h] at hsome
    cases hsome
  · rfl

lemma tokens_of_readStyle?_eq_some {t code rest : Text} (h : readStyle? t = some (code, rest)) :
    tokens t = .style code :: tokens rest := by
  cases t with
  | nil => cases h
  | cons c t =>
    rw [tokens]
    split
    · next hsome =>
      rw [h] at hsome
      cases hsome
      rfl
    · next hnone =>
      rw [h] at hnone
      cases hnone

/-- The characters among what is taken in. -/
def written (ts : List Token) : Text :=
  ts.flatMap fun
    | .char c => [c]
    | .style _ => []

/-- A text with every sequence for a style deleted. -/
def unstyled (t : Text) : Text := written (tokens t)

/-- The code that takes back all others. -/
def resetCode : Text := "0"

/-- The codes in force after one more token. -/
def obey (codes : List Text) : Token → List Text
  | .char _ => codes
  | .style code => if code = resetCode then [] else codes ++ [code]

/-- The codes in force on a terminal that had none and has taken in a text. -/
def inForce (t : Text) : List Text := (tokens t).foldl obey []

/-- Behind every code that is not a reset comes a reset, and what is written until then is one of
the given words. -/
def Contained (words : List Text) (ts : List Token) : Prop :=
  ∀ code after, .style code :: after <:+ ts → code ≠ resetCode →
    ∃ between rest, after = between ++ .style resetCode :: rest ∧
      .style resetCode ∉ between ∧ written between ∈ words

@[simp] lemma written_append (ts us : List Token) :
    written (ts ++ us) = written ts ++ written us :=
  List.flatMap_append

@[simp] lemma written_char (t : Text) : written (t.map .char) = t := by
  induction t with
  | nil => rfl
  | cons c t ih => exact congrArg (c :: ·) ih

@[simp] lemma written_style (codes : List Text) : written (codes.map .style) = [] := by
  induction codes with
  | nil => rfl
  | cons code codes ih => exact ih

/-! ### Tokens of a styled output -/

/-- Only an escape character begins a sequence. -/
lemma tokens_cons {c : Char} (h : c ≠ '\x1b') (t : Text) :
    tokens (c :: t) = .char c :: tokens t := by
  refine tokens_of_readStyle?_eq_none ?_
  unfold readStyle?
  split
  · next heq => exact absurd (List.cons.inj heq).1 h
  · rfl

lemma tokens_append {t : Text} (h : '\x1b' ∉ t) (u : Text) :
    tokens (t ++ u) = t.map .char ++ tokens u := by
  induction t with
  | nil => rfl
  | cons c t ih =>
    have hc : c ≠ '\x1b' := (List.ne_of_not_mem_cons h).symm
    rw [List.cons_append, tokens_cons hc, ih (List.not_mem_of_not_mem_cons h)]
    rfl

lemma readStyle?_escape {code : Text} (h : code.all isParameter = true) (u : Text) :
    readStyle? (escape code ++ u) = some (code, u) := by
  have hparameters : ∀ c ∈ code, isParameter c = true := List.all_eq_true.1 h
  have hm : ¬ isParameter 'm' = true := by decide
  have hcode : escape code ++ u = '\x1b' :: '[' :: (code ++ 'm' :: u) := by
    simp [escape]
  have hdrop : (code ++ 'm' :: u).dropWhile isParameter = 'm' :: u := by
    rw [List.dropWhile_append_of_pos hparameters, List.dropWhile_cons_of_neg hm]
  have htake : (code ++ 'm' :: u).takeWhile isParameter = code := by
    rw [List.takeWhile_append_of_pos hparameters, List.takeWhile_cons_of_neg hm,
      List.append_nil]
  rw [hcode]
  simp only [readStyle?, hdrop, htake]

lemma tokens_escape {code : Text} (h : code.all isParameter = true) (u : Text) :
    tokens (escape code ++ u) = .style code :: tokens u :=
  tokens_of_readStyle?_eq_some (readStyle?_escape h u)

lemma tokens_escapes {codes : List Text} (h : ∀ code ∈ codes, code.all isParameter = true)
    (u : Text) : tokens (codes.flatMap escape ++ u) = codes.map .style ++ tokens u := by
  induction codes with
  | nil => rfl
  | cons code codes ih =>
    obtain ⟨hcode, hcodes⟩ := List.forall_mem_cons.1 h
    rw [List.flatMap_cons, List.append_assoc, tokens_escape hcode, ih hcodes]
    rfl

/-- The codes for a style, behind a reset. -/
def styleCodes (colour : Colour) (bold : Bool) : List Text :=
  (if bold then ["1".toList] else []) ++ [Colour.code colour]

/-- Part of an output as a terminal takes it in. -/
def pieceTokens : Piece → List Token
  | .text t => t.map .char
  | .setStyle colour bold => (resetCode :: styleCodes colour bold).map .style
  | .reset => [.style resetCode]

lemma tokens_ansiPiece {p : Piece} (h : '\x1b' ∉ plainPiece p) (u : Text) :
    tokens (ansiPiece p ++ u) = pieceTokens p ++ tokens u := by
  cases p with
  | text t => exact tokens_append h u
  | setStyle colour bold =>
    have hansi : ansiPiece (.setStyle colour bold) =
        (resetCode :: styleCodes colour bold).flatMap escape := by
      cases bold <;> simp [ansiPiece, styleCodes, resetCode]
    have hcodes : ∀ code ∈ resetCode :: styleCodes colour bold,
        code.all isParameter = true := by
      cases colour <;> cases bold <;> decide
    rw [hansi, tokens_escapes hcodes]
    rfl
  | reset => exact tokens_escape (by decide) u

lemma written_pieceTokens (p : Piece) : written (pieceTokens p) = plainPiece p := by
  cases p with
  | text t => exact written_char t
  | setStyle colour bold => exact written_style (resetCode :: styleCodes colour bold)
  | reset => rfl

section Output

variable {ps : List Piece} (h : '\x1b' ∉ plain ps)

include h

lemma tokens_ansi : tokens (ansi ps) = ps.flatMap pieceTokens := by
  induction ps with
  | nil => exact tokens_nil
  | cons p ps ih =>
    have hplain : '\x1b' ∉ plainPiece p ∧ '\x1b' ∉ plain ps := by
      simpa [plain] using h
    have hansi : ansi (p :: ps) = ansiPiece p ++ ansi ps := rfl
    rw [hansi, tokens_ansiPiece hplain.1, ih hplain.2, List.flatMap_cons]

/-- **Without its sequences for styles an output is the plain output.** -/
theorem unstyled_ansi : unstyled (ansi ps) = plain ps := by
  rw [unstyled, tokens_ansi h]
  clear h
  induction ps with
  | nil => rfl
  | cons p ps ih =>
    rw [List.flatMap_cons, written_append, written_pieceTokens, ih]
    rfl

end Output

/-! ### Styles that are taken back -/

section Contained

variable {words : List Text} {ts : List Token}

lemma contained_nil : Contained words [] := by
  intro code after hsuffix
  cases List.suffix_nil.1 hsuffix

lemma Contained.char (h : Contained words ts) (t : Text) :
    Contained words (t.map .char ++ ts) := by
  induction t with
  | nil => exact h
  | cons c t ih =>
    intro code after hsuffix
    rcases List.suffix_cons_iff.1 hsuffix with heq | hsuffix
    · cases heq
    · exact ih code after hsuffix

lemma Contained.reset (h : Contained words ts) : Contained words (.style resetCode :: ts) := by
  intro code after hsuffix hcode
  rcases List.suffix_cons_iff.1 hsuffix with heq | hsuffix
  · cases heq
    exact absurd rfl hcode
  · exact h code after hsuffix hcode

/-- Codes may stand before a word with a reset behind it. -/
lemma Contained.styled (h : Contained words ts) {t : Text} (ht : t ∈ words) {codes : List Text}
    (hcodes : resetCode ∉ codes) :
    Contained words (codes.map .style ++ (t.map .char ++ .style resetCode :: ts)) := by
  induction codes with
  | nil => exact h.reset.char t
  | cons code codes ih =>
    intro code' after hsuffix hcode'
    have hrest := List.not_mem_of_not_mem_cons hcodes
    rcases List.suffix_cons_iff.1 hsuffix with heq | hsuffix
    · obtain ⟨-, rfl⟩ := List.cons.inj heq
      refine ⟨codes.map .style ++ t.map .char, ts, by simp, by simp [hrest], ?_⟩
      simpa using ht
    · exact ih hrest code' after hsuffix hcode'

/-- A terminal that takes in such tokens is left without a style. By induction on them: a code in
force has its reset ahead. -/
lemma Contained.foldl_obey (h : Contained words ts) {codes : List Text}
    (hreset : codes = [] ∨ .style resetCode ∈ ts) : ts.foldl obey codes = [] := by
  induction ts generalizing codes with
  | nil => simpa using hreset
  | cons x ts ih =>
    have htail : Contained words ts :=
      fun code after hsuffix => h code after (hsuffix.trans (List.suffix_cons x ts))
    rw [List.foldl_cons]
    cases x with
    | char c =>
      refine ih htail (hreset.imp_right fun hmem => ?_)
      exact (List.mem_cons.1 hmem).resolve_left nofun
    | style code =>
      by_cases hcode : code = resetCode
      · exact ih htail (Or.inl (if_pos hcode))
      · obtain ⟨between, rest, rfl, -⟩ := h code ts List.suffix_rfl hcode
        exact ih htail (Or.inr (by simp))

end Contained

/-- Every style is set for one of the given words and reset behind it. -/
inductive Bracketed (words : List Text) : List Piece → Prop
  | nil : Bracketed words []
  | text (t : Text) {ps : List Piece} (rest : Bracketed words ps) : Bracketed words (.text t :: ps)
  | styled (colour : Colour) (bold : Bool) {t : Text} {ps : List Piece} (word : t ∈ words)
      (rest : Bracketed words ps) :
      Bracketed words (.setStyle colour bold :: .text t :: .reset :: ps)

lemma resetCode_not_mem_styleCodes (colour : Colour) (bold : Bool) :
    resetCode ∉ styleCodes colour bold := by
  cases colour <;> cases bold <;> decide

/-- **Colours that are reset in an output are contained on a terminal.** -/
theorem Bracketed.contained {words : List Text} {ps : List Piece} (h : Bracketed words ps) :
    Contained words (ps.flatMap pieceTokens) := by
  induction h with
  | nil => exact contained_nil
  | text t rest ih => exact ih.char t
  | @styled colour bold t ps word rest ih =>
    have htokens : (.setStyle colour bold :: .text t :: .reset :: ps : List Piece).flatMap
        pieceTokens = .style resetCode :: ((styleCodes colour bold).map .style ++
          (t.map .char ++ .style resetCode :: ps.flatMap pieceTokens)) := by
      simp [pieceTokens]
    rw [htokens]
    exact (ih.styled word (resetCode_not_mem_styleCodes colour bold)).reset

/-- A terminal shows the text of an output, styles no more of it than the given words, and is left
without a style. -/
structure Shows (words : List Text) (output text : Text) : Prop where
  noEscape : '\x1b' ∉ text
  unstyled : unstyled output = text
  contained : Contained words (tokens output)
  inForce : inForce output = []

lemma Bracketed.shows {words : List Text} {ps : List Piece} (h : Bracketed words ps)
    (hplain : '\x1b' ∉ plain ps) : Shows words (ansi ps) (plain ps) := by
  have hcontained : Contained words (tokens (ansi ps)) := by
    rw [tokens_ansi hplain]
    exact h.contained
  exact ⟨hplain, unstyled_ansi hplain, hcontained, hcontained.foldl_obey (Or.inl rfl)⟩

end Styled

namespace Readable

open Styled

/-! ### Outcomes and listings -/

lemma bracketed_outcomes (os : List Outcome) :
    Bracketed [Text.ofBool true, Text.ofBool false] (outcomes os) := by
  have hword : ∀ b, Text.ofBool b ∈ [Text.ofBool true, Text.ofBool false] := by decide
  induction os with
  | nil => exact .nil
  | cons o os ih => exact .text _ (.styled _ _ (hword o.matched) (.text _ ih))

/-- The line that tells how many entries were left out. -/
def skippedLine (n : ℕ) : Text :=
  Text.line ("Skipped ".toList ++ Text.ofNat n ++ " invalid filters:".toList)

lemma bracketed_listing (s : RuleSet) (ds : List Diagnostic) :
    Bracketed [skippedLine ds.length] (listing s ds) := by
  have hdropped : Bracketed [skippedLine ds.length] (dropped ds) := by
    unfold dropped
    split
    · exact .nil
    · exact .text _ (.styled _ _ (List.mem_singleton.2 rfl) (.text _ .nil))
  exact .text _ (.text _ hdropped)

section Escapes

variable {os : List Outcome} {s : RuleSet} {ds : List Diagnostic}

/-- A line feed is not an escape character. -/
lemma escape_mem_line {t : Text} (h : '\x1b' ∈ Text.line t) : '\x1b' ∈ t :=
  (List.mem_append.1 h).resolve_right (by decide)

lemma escape_not_mem_outcomesText (h : ∀ o ∈ os, '\x1b' ∉ o.input) :
    '\x1b' ∉ outcomesText os := by
  rw [outcomesText_eq]
  intro hmem
  obtain ⟨l, hl, hmem⟩ := List.mem_flatMap.1 hmem
  obtain ⟨o, ho, rfl⟩ := List.mem_map.1 hl
  exact h o ho (mem_of_mem_verdictLine (by decide) (escape_mem_line hmem))

lemma escape_not_mem_rules {rs : List Rule} (h : ∀ r ∈ rs, '\x1b' ∉ r.method) (index : ℕ) :
    '\x1b' ∉ rules index rs := by
  induction rs generalizing index with
  | nil => exact List.not_mem_nil
  | cons r rs ih =>
    obtain ⟨hr, hrs⟩ := List.forall_mem_cons.1 h
    rw [rules, rule_eq, List.mem_append]
    rintro (hmem | hmem)
    · exact hr (mem_of_mem_ruleLine (by decide) (escape_mem_line hmem))
    · exact ih hrs (index + 1) hmem

lemma escape_not_mem_skippedLine (n : ℕ) : '\x1b' ∉ skippedLine n := by
  have hfront : Text.Plain "Skipped ".toList := by decide
  have hback : Text.Plain " invalid filters:".toList := by decide
  intro hmem
  have hnumber := hfront.mem_between hback (by decide) (escape_mem_line hmem)
  exact (Text.plain_ofNat n).not_mem (by decide) hnumber

lemma escape_not_mem_dropped (h : ∀ d ∈ ds, '\x1b' ∉ d.message) :
    '\x1b' ∉ plain (dropped ds) := by
  have hindent : '\x1b' ∉ "  ".toList := by decide
  have hlines : '\x1b' ∉ ds.flatMap fun d => Text.line ("  ".toList ++ d.message) := by
    intro hmem
    obtain ⟨d, hd, hmem⟩ := List.mem_flatMap.1 hmem
    exact h d hd ((List.mem_append.1 (escape_mem_line hmem)).resolve_left hindent)
  have hpieces : ∀ skipped lines : Text, plain [.text ['\n'], .setStyle .yellow false,
      .text skipped, .reset, .text lines] = '\n' :: (skipped ++ lines) := by
    intro skipped lines
    simp [plain, plainPiece]
  unfold dropped
  split
  · exact List.not_mem_nil
  · rw [hpieces, List.mem_cons, List.mem_append]
    rintro (hmem | hmem | hmem)
    · exact absurd hmem (by decide)
    · exact escape_not_mem_skippedLine ds.length hmem
    · exact hlines hmem

lemma escape_not_mem_listingText (hname : '\x1b' ∉ s.name)
    (hrules : ∀ r ∈ s.rules, '\x1b' ∉ r.method) (hmessages : ∀ d ∈ ds, '\x1b' ∉ d.message) :
    '\x1b' ∉ listingText s ds := by
  rw [listingText_eq, header_eq, List.mem_append, List.mem_append]
  rintro ((hmem | hmem) | hmem)
  · exact hname (mem_of_mem_headerLine (by decide) (escape_mem_line hmem))
  · exact escape_not_mem_rules hrules 0 hmem
  · exact escape_not_mem_dropped hmessages hmem

end Escapes

/-- **Colours change no text and are contained.** For inputs, and for names, methods and messages
without escape characters, whatever the patterns, the coloured output becomes the plain one when the
sequences for styles are deleted, and the plain one has no escape character. Each style that is set
is reset when no more than a verdict, or the line before the entries that were left out, has been
written, and so the terminal is left without one. -/
theorem colours_contained :
    (∀ os : List Outcome, (∀ o ∈ os, '\x1b' ∉ o.input) →
      Shows [Text.ofBool true, Text.ofBool false] (ansi (outcomes os)) (outcomesText os)) ∧
    ∀ (s : RuleSet) (ds : List Diagnostic), '\x1b' ∉ s.name →
      (∀ r ∈ s.rules, '\x1b' ∉ r.method) → (∀ d ∈ ds, '\x1b' ∉ d.message) →
      Shows [skippedLine ds.length] (ansi (listing s ds)) (listingText s ds) := by
  constructor
  · intro os hinputs
    exact (bracketed_outcomes os).shows (escape_not_mem_outcomesText hinputs)
  · intro s ds hname hrules hmessages
    exact (bracketed_listing s ds).shows (escape_not_mem_listingText hname hrules hmessages)

/-- Inputs and a name that lack only the escape character of a sequence, and a pattern that has
it. -/
theorem colours_contained_imitations :
    let os : List Outcome := [⟨"[31m", some 0⟩, ⟨"", none⟩, ⟨"0m\" matches? true", none⟩]
    let s : RuleSet := ⟨"[32m", [.contains "\x1b[31m" true]⟩
    let ds : List Diagnostic := [⟨1, .notAMapping⟩, ⟨2, .unknownMethod "[0m\n" []⟩]
    (∀ o ∈ os, '\x1b' ∉ o.input) ∧ '\x1b' ∉ s.name ∧ (∀ r ∈ s.rules, '\x1b' ∉ r.method) ∧
      (∀ d ∈ ds, '\x1b' ∉ d.message) ∧
      Shows [Text.ofBool true, Text.ofBool false] (ansi (outcomes os)) (outcomesText os) ∧
      Shows [skippedLine 2] (ansi (listing s ds)) (listingText s ds) := by
  intro os s ds
  have hos : ∀ o ∈ os, '\x1b' ∉ o.input := by decide
  have hname : '\x1b' ∉ s.name := by decide
  have hrules : ∀ r ∈ s.rules, '\x1b' ∉ r.method :=
    List.forall_mem_singleton.2 (by decide : '\x1b' ∉ "contains".toList)
  have hmessages : ∀ d ∈ ds, '\x1b' ∉ d.message := by decide
  exact ⟨hos, hname, hrules, hmessages, colours_contained.1 os hos,
    colours_contained.2 s ds hname hrules hmessages⟩

end Readable

end TextSieve
