import Mathlib.Data.List.DropRight
import TextSieve.Proofs.ByteOrder
import TextSieve.Proofs.InputLines

/-!
The lines of the standard input. A text is laid out as lines with their ends and a rest without an
end, and its lines are those of this layout. The bytes may as well be taken up to one line feed
after the other, each of these pieces decoded on its own: no byte of another encoding is a line
feed, so this succeeds for the same streams and gives the same lines.
-/

namespace TextSieve

namespace Text

/-! ### Lines with their ends -/

/-- What ends a line. -/
inductive LineEnd where
  | lf
  | crlf
  deriving DecidableEq

/-- The characters that end a line. -/
def LineEnd.text : LineEnd → Text
  | lf => ['\n']
  | crlf => ['\r', '\n']

/-- A line and its end. A carriage return before a bare line feed would be part of the end. -/
structure EndedLine where
  content : Text
  ending : LineEnd
  newline_not_mem : '\n' ∉ content
  getLast?_ne : ending = .lf → content.getLast? ≠ some '\r'

/-- The line as it stands in a text. -/
def EndedLine.text (l : EndedLine) : Text := l.content ++ l.ending.text

/-- A text as lines with their ends, and what follows the last of them. -/
structure Layout where
  ended : List EndedLine
  rest : Text
  newline_not_mem_rest : '\n' ∉ rest

namespace Layout

/-- The text that is laid out. -/
def text (l : Layout) : Text := l.ended.flatMap EndedLine.text ++ l.rest

/-- What follows the last line, as a line unless it is empty. -/
def restLines (l : Layout) : List Text := if l.rest = [] then [] else [l.rest]

/-- The lines, without their ends. -/
def lines (l : Layout) : List Text := l.ended.map EndedLine.content ++ l.restLines

end Layout

/-- A line with its end, up to the line feed. -/
lemma EndedLine.text_eq (l : EndedLine) :
    ∃ x : Text, l.text = x ++ ['\n'] ∧ '\n' ∉ x ∧ finishLine x.reverse = l.content := by
  obtain ⟨content, ending, hnl, hcr⟩ := l
  cases ending with
  | lf => exact ⟨content, rfl, hnl, finishLine_reverse (hcr rfl)⟩
  | crlf =>
    refine ⟨content ++ ['\r'], ?_, ?_, ?_⟩
    · rw [EndedLine.text, List.append_assoc]
      rfl
    · rw [List.mem_append, not_or]
      exact ⟨hnl, by decide⟩
    · rw [List.reverse_append]
      exact List.reverse_reverse content

/-- Without a line feed there is no more than the line that has been begun. -/
lemma linesFrom_of_not_mem (current : Text) {x : Text} (h : '\n' ∉ x) :
    linesFrom current x = if current = [] ∧ x = [] then [] else [current.reverse ++ x] := by
  induction x generalizing current with
  | nil => cases current <;> simp [linesFrom]
  | cons c x ih =>
    obtain ⟨hc, hx⟩ := not_or.1 fun hmem => h (List.mem_cons.2 hmem)
    rw [linesFrom, ih _ hx]
    · simp
    · exact fun hnl => hc hnl.symm

/-- **The lines of a layout are those of its text.** By induction on the lines that have an end. -/
theorem lines_text (l : Layout) : Text.lines l.text = l.lines := by
  obtain ⟨ended, rest, hrest⟩ := l
  unfold Text.lines Layout.text Layout.lines Layout.restLines
  dsimp only
  induction ended with
  | nil =>
    rw [List.flatMap_nil, List.nil_append, linesFrom_of_not_mem [] hrest]
    simp
  | cons e ended ih =>
    obtain ⟨x, htext, hx, hfinish⟩ := e.text_eq
    rw [List.flatMap_cons, htext, List.append_assoc, List.append_assoc, List.singleton_append,
      linesFrom_append [] hx, List.append_nil, hfinish, ih]
    rfl

/-- Puts a line before a layout. -/
def Layout.cons (e : EndedLine) (l : Layout) : Layout :=
  ⟨e :: l.ended, l.rest, l.newline_not_mem_rest⟩

lemma Layout.text_cons (e : EndedLine) (l : Layout) : (l.cons e).text = e.text ++ l.text := by
  unfold Layout.text Layout.cons
  rw [List.flatMap_cons, List.append_assoc]

/-- What stands before a line feed is a line, perhaps with a carriage return that belongs to the
end. -/
lemma exists_endedLine {x : Text} (h : '\n' ∉ x) : ∃ e : EndedLine, e.text = x ++ ['\n'] := by
  by_cases hcr : x.getLast? = some '\r'
  · obtain ⟨y, rfl⟩ := List.getLast?_eq_some_iff.1 hcr
    refine ⟨⟨y, .crlf, fun hmem => h (List.mem_append_left _ hmem), nofun⟩, ?_⟩
    rw [EndedLine.text, List.append_assoc]
    rfl
  · exact ⟨⟨x, .lf, h, fun _ => hcr⟩, rfl⟩

/-- **Every text can be laid out.** By induction on its length, with the first line taken off. -/
theorem exists_layout (t : Text) : ∃ l : Layout, l.text = t := by
  induction hn : t.length using Nat.strong_induction_on generalizing t with
  | _ n ih =>
    by_cases h : '\n' ∈ t
    · obtain ⟨x, t', rfl, hx⟩ := List.eq_append_cons_of_mem h
      obtain ⟨e, he⟩ := exists_endedLine hx
      obtain ⟨l, rfl⟩ := ih t'.length (by simp at hn; omega) t' rfl
      refine ⟨l.cons e, ?_⟩
      rw [Layout.text_cons, he, List.append_assoc, List.singleton_append]
    · exact ⟨⟨[], t, h⟩, rfl⟩

/-! ### Bytes of texts -/

/-- The byte of a line feed. -/
def lineFeed : UInt8 := 10

lemma bytes_append (s t : Text) : bytes (s ++ t) = bytes s ++ bytes t := List.flatMap_append

/-- A text as a stream of bytes. -/
def stream (t : Text) : ByteArray := t.bytes.toByteArray

/-- Bytes are read as a text if and only if they are the bytes of this text. -/
lemma ofBytes?_eq_some_iff {s : ByteArray} {t : Text} :
    ofBytes? s = some t ↔ s.data.toList = t.bytes := by
  have hbytes (u : Text) : (String.ofList u).toByteArray.data.toList = u.bytes := by
    rw [String.toByteArray_ofList, List.utf8Encode, List.toList_data_toByteArray, bytes]
  constructor
  · intro h
    obtain ⟨str, hstr, rfl⟩ := Option.map_eq_some_iff.1 h
    unfold String.fromUTF8? at hstr
    split at hstr
    · cases hstr
      rw [← hbytes, String.ofList_toList]
      rfl
    · cases hstr
  · intro h
    have hs : s = (String.ofList t).toByteArray :=
      ByteArray.ext (Array.toList_inj.1 (h.trans (hbytes t).symm))
    rw [hs, Command.ofBytes?_toByteArray]

lemma ofBytes?_stream (t : Text) : ofBytes? (stream t) = some t :=
  ofBytes?_eq_some_iff.2 List.toList_data_toByteArray

/-- Bytes are in UTF-8 if and only if they are read as a text. -/
lemma isValidUTF8_iff {s : ByteArray} : s.IsValidUTF8 ↔ ∃ t, ofBytes? s = some t := by
  unfold ofBytes? String.fromUTF8?
  split <;> simp_all

/-- The line feed is a byte of no encoding but its own. -/
lemma lineFeed_not_mem {c : Char} (h : c ≠ '\n') : lineFeed ∉ String.utf8EncodeChar c := by
  have hval : c.val.toNat ≠ 10 := fun hc => h (Char.toNat_inj.1 hc)
  have hne : ∀ n, n < 256 → n ≠ 10 → lineFeed ≠ UInt8.ofNat n := by
    intro n hn hne heq
    rw [← UInt8.toNat_inj, UInt8.toNat_ofNat_of_lt' hn] at heq
    exact hne heq.symm
  have hmax : c.val.toNat < 0x110000 := by
    have := c.valid
    simp only [UInt32.isValidChar, Nat.isValidChar] at this
    omega
  unfold String.utf8EncodeChar
  generalize c.val.toNat = m at hval hmax
  dsimp only
  split_ifs <;> simp only [List.mem_cons, List.not_mem_nil, or_false, not_or]
  all_goals
    repeat' apply And.intro
    all_goals exact hne _ (by omega) (by omega)

lemma lineFeed_not_mem_bytes {t : Text} (h : '\n' ∉ t) : lineFeed ∉ t.bytes := by
  unfold bytes
  rw [List.mem_flatMap]
  rintro ⟨c, hc, hmem⟩
  exact lineFeed_not_mem (fun hnl => h (hnl ▸ hc)) hmem

/-! ### Pieces of a stream -/

/-- The pieces of a stream, each up to and with a line feed; what follows the last line feed is a
piece unless it is empty. -/
def pieces : List UInt8 → List (List UInt8)
  | [] => []
  | b :: s =>
    if b = lineFeed then [b] :: pieces s
    else
      match pieces s with
      | [] => [[b]]
      | p :: ps => (b :: p) :: ps

lemma flatten_pieces (s : List UInt8) : (pieces s).flatten = s := by
  induction s with
  | nil => rfl
  | cons b s ih =>
    rw [pieces]
    split
    · rw [List.flatten_cons, ih]
      rfl
    · split
      · next h =>
        rw [h] at ih
        rw [← ih]
        rfl
      · next h =>
        rw [h, List.flatten_cons] at ih
        rw [List.flatten_cons, List.cons_append, ih]

lemma pieces_append {s : List UInt8} (h : lineFeed ∉ s) (t : List UInt8) :
    pieces (s ++ lineFeed :: t) = (s ++ [lineFeed]) :: pieces t := by
  induction s with
  | nil => rw [List.nil_append, pieces, if_pos rfl, List.nil_append]
  | cons b s ih =>
    obtain ⟨hb, hs⟩ := not_or.1 fun hmem => h (List.mem_cons.2 hmem)
    rw [List.cons_append, pieces, if_neg (Ne.symm hb), ih hs]
    rfl

lemma pieces_of_not_mem {s : List UInt8} (h : lineFeed ∉ s) :
    pieces s = if s = [] then [] else [s] := by
  induction s with
  | nil => rfl
  | cons b s ih =>
    obtain ⟨hb, hs⟩ := not_or.1 fun hmem => h (List.mem_cons.2 hmem)
    rw [pieces, if_neg (Ne.symm hb), ih hs]
    cases s <;> rfl

/-- A text without the end of a line: without a line feed at its end, and then without a carriage
return. -/
def dropEnd (t : Text) : Text :=
  if t.getLast? = some '\n' then
    if t.dropLast.getLast? = some '\r' then t.dropLast.dropLast else t.dropLast
  else t

/-- A piece, read as a line. -/
def readPiece? (p : List UInt8) : Option Text := (ofBytes? p.toByteArray).map dropEnd

lemma dropEnd_of_not_mem {t : Text} (h : '\n' ∉ t) : dropEnd t = t :=
  if_neg fun hlast => h (List.mem_of_getLast? hlast)

lemma EndedLine.dropEnd_text (l : EndedLine) : dropEnd l.text = l.content := by
  obtain ⟨content, ending, hnl, hcr⟩ := l
  cases ending with
  | lf => simp [EndedLine.text, LineEnd.text, dropEnd, hcr]
  | crlf => simp [EndedLine.text, LineEnd.text, dropEnd]

/-- The bytes of a line with its end: one line feed, at the end of them. -/
lemma EndedLine.bytes_text (l : EndedLine) :
    ∃ s : List UInt8, l.text.bytes = s ++ [lineFeed] ∧ lineFeed ∉ s := by
  obtain ⟨x, htext, hx, -⟩ := l.text_eq
  exact ⟨x.bytes, by rw [htext, bytes_append]; rfl, lineFeed_not_mem_bytes hx⟩

lemma bytes_eq_nil {t : Text} : t.bytes = [] ↔ t = [] := by
  cases t with
  | nil => exact ⟨fun _ => rfl, fun _ => rfl⟩
  | cons c t => simp [bytes_cons, String.utf8EncodeChar_ne_nil]

namespace Layout

lemma bytes_text (l : Layout) :
    l.text.bytes = l.ended.flatMap (fun e => e.text.bytes) ++ l.rest.bytes := by
  unfold text
  rw [bytes_append]
  unfold bytes
  rw [List.flatMap_assoc]

/-- The pieces of the bytes of a layout are its lines with their ends, and the rest. -/
lemma pieces_bytes (l : Layout) :
    pieces l.text.bytes = (l.ended.map EndedLine.text ++ l.restLines).map bytes := by
  obtain ⟨ended, rest, hrest⟩ := l
  rw [bytes_text]
  unfold restLines
  dsimp only
  induction ended with
  | nil =>
    rw [List.flatMap_nil, List.nil_append, pieces_of_not_mem (lineFeed_not_mem_bytes hrest)]
    simp only [bytes_eq_nil]
    split <;> rfl
  | cons e ended ih =>
    obtain ⟨s, hs, hmem⟩ := e.bytes_text
    rw [List.flatMap_cons, hs, List.append_assoc, List.append_assoc, List.singleton_append,
      pieces_append hmem, ih, ← hs]
    rfl

/-- The pieces of the bytes of a layout are read as its lines. -/
lemma mapM_readPiece? (l : Layout) : (pieces l.text.bytes).mapM readPiece? = some l.lines := by
  have hread (t : Text) : readPiece? t.bytes = some (dropEnd t) :=
    congrArg (Option.map dropEnd) (ofBytes?_stream t)
  have hrest : l.restLines.map dropEnd = l.restLines := by
    unfold restLines
    split
    · rfl
    · rw [List.map_singleton, dropEnd_of_not_mem l.newline_not_mem_rest]
  have hended : l.ended.map (dropEnd ∘ EndedLine.text) = l.ended.map EndedLine.content :=
    List.map_congr_left fun e _ => e.dropEnd_text
  rw [pieces_bytes, List.mapM_map, show readPiece? ∘ bytes = some ∘ dropEnd from funext hread]
  refine (List.mapM_pure (m := Option) (f := dropEnd)).trans (congrArg some ?_)
  rw [List.map_append, List.map_map, hended, hrest]
  rfl

end Layout

/-- Bytes of which each piece is a text are a text. -/
lemma exists_flatten_eq_bytes {ps : List (List UInt8)} {xs : List Text}
    (h : ps.mapM readPiece? = some xs) : ∃ t : Text, ps.flatten = t.bytes := by
  induction ps generalizing xs with
  | nil => exact ⟨[], rfl⟩
  | cons p ps ih =>
    rw [List.mapM_cons] at h
    obtain ⟨x, hx, h⟩ := Option.bind_eq_some_iff.1 h
    obtain ⟨ys, hys, -⟩ := Option.bind_eq_some_iff.1 h
    obtain ⟨t, ht⟩ := ih hys
    obtain ⟨u, hu, -⟩ := Option.map_eq_some_iff.1 hx
    have hp : p = u.bytes := by
      rw [← ofBytes?_eq_some_iff.1 hu, List.toList_data_toByteArray]
    exact ⟨u ++ t, by rw [List.flatten_cons, hp, ht, bytes_append]⟩

/-- **Reading a stream piece by piece is reading it as a whole.** The first piece that is no text
ends the reading; then the whole is no text either. -/
theorem readLines?_eq_mapM (s : ByteArray) :
    readLines? s = (pieces s.data.toList).mapM readPiece? := by
  cases hs : ofBytes? s with
  | some t =>
    obtain ⟨l, rfl⟩ := exists_layout t
    rw [ofBytes?_eq_some_iff.1 hs, l.mapM_readPiece?, readLines?, hs, Option.map_some, lines_text]
  | none =>
    rw [readLines?, hs, Option.map_none]
    cases h : (pieces s.data.toList).mapM readPiece? with
    | none => rfl
    | some xs =>
      obtain ⟨t, ht⟩ := exists_flatten_eq_bytes h
      rw [flatten_pieces] at ht
      rw [ofBytes?_eq_some_iff.2 ht] at hs
      cases hs

/-! ### The number of lines -/

/-- The bytes behind the last line feed. -/
def behindLast (s : List UInt8) : List UInt8 := s.rtakeWhile (· ≠ lineFeed)

/-- What stands up to a line feed does not matter. By induction on the bytes behind it, from their
end. -/
lemma behindLast_append (s t : List UInt8) : behindLast (s ++ lineFeed :: t) = behindLast t := by
  unfold behindLast
  induction t using List.reverseRecOn with
  | nil => exact List.rtakeWhile_concat_neg _ _ _ (by simp)
  | append_singleton t b ih =>
    rw [← List.cons_append, ← List.append_assoc, List.rtakeWhile_concat, List.rtakeWhile_concat,
      ih]

namespace Layout

lemma count_bytes (l : Layout) : l.text.bytes.count lineFeed = l.ended.length := by
  obtain ⟨ended, rest, hrest⟩ := l
  rw [bytes_text, List.count_append,
    List.count_eq_zero.2 (lineFeed_not_mem_bytes hrest), Nat.add_zero]
  dsimp only
  induction ended with
  | nil => rfl
  | cons e ended ih =>
    obtain ⟨s, hs, hmem⟩ := e.bytes_text
    rw [List.flatMap_cons, hs, List.count_append, ih, List.count_append,
      List.count_eq_zero.2 hmem, List.length_cons, List.count_singleton_self]
    omega

/-- The bytes of the rest are those behind the last line feed. -/
lemma behindLast_bytes (l : Layout) : behindLast l.text.bytes = l.rest.bytes := by
  obtain ⟨ended, rest, hrest⟩ := l
  rw [bytes_text]
  dsimp only
  induction ended with
  | nil =>
    refine List.rtakeWhile_eq_self_iff.2 fun b hb => decide_eq_true ?_
    rintro rfl
    exact lineFeed_not_mem_bytes hrest hb
  | cons e ended ih =>
    obtain ⟨s, hs, -⟩ := e.bytes_text
    rw [List.flatMap_cons, hs, List.append_assoc, List.append_assoc, List.singleton_append,
      behindLast_append, ih]

/-- There is a line for each line feed, and one for bytes behind the last of them. -/
lemma length_lines (l : Layout) :
    l.lines.length =
      l.text.bytes.count lineFeed + if behindLast l.text.bytes = [] then 0 else 1 := by
  rw [l.count_bytes, l.behindLast_bytes, lines, List.length_append, List.length_map, restLines]
  simp only [bytes_eq_nil]
  split <;> rfl

lemma newline_not_mem_lines (l : Layout) : ∀ x ∈ l.lines, '\n' ∉ x := by
  intro x hx
  rcases List.mem_append.1 hx with hx | hx
  · obtain ⟨e, -, rfl⟩ := List.mem_map.1 hx
    exact e.newline_not_mem
  · unfold restLines at hx
    split at hx
    · cases hx
    · exact List.mem_singleton.1 hx ▸ l.newline_not_mem_rest

end Layout

/-! ### The standard input -/

/-- The lines of a layout are read from its bytes. -/
lemma readLines?_stream (l : Layout) : readLines? (stream l.text) = some l.lines := by
  rw [readLines?, ofBytes?_stream, Option.map_some, lines_text]

/-- **A stream is split exactly into its lines.** It has lines if and only if it is in UTF-8, and
these are what its pieces give one by one. Lines with their ends, be they bare line feeds or behind
carriage returns, are read back, also if the last, which is not empty, lacks its end. Whatever the
stream in UTF-8, no line has a line feed in it; there is one line for each line feed and one more
if bytes follow the last of them; and the stream consists of its lines, of the ends of lines, and
of nothing else, so that a carriage return is dropped only just before a line feed. -/
theorem stream_lines_exact :
    (∀ s : ByteArray, ((readLines? s).isSome ↔ s.IsValidUTF8) ∧
      readLines? s = (pieces s.data.toList).mapM readPiece?) ∧
    (∀ ended : List EndedLine,
      readLines? (stream (ended.flatMap EndedLine.text)) = some (ended.map EndedLine.content)) ∧
    (∀ (ended : List EndedLine) (last : EndedLine), last.content ≠ [] →
      readLines? (stream (ended.flatMap EndedLine.text ++ last.content)) =
        some (ended.map EndedLine.content ++ [last.content])) ∧
    ∀ s : ByteArray, s.IsValidUTF8 → ∃ inputs, readLines? s = some inputs ∧
      (∀ x ∈ inputs, '\n' ∉ x) ∧
      inputs.length = s.data.toList.count lineFeed +
        (if behindLast s.data.toList = [] then 0 else 1) ∧
      ∃ l : Layout, s.data.toList = l.text.bytes ∧ inputs = l.lines := by
  refine ⟨fun s => ⟨?_, readLines?_eq_mapM s⟩, fun ended => ?_, fun ended last hlast => ?_,
    fun s hs => ?_⟩
  · rw [readLines?, Option.isSome_map, isValidUTF8_iff, Option.isSome_iff_exists]
  · have h := readLines?_stream ⟨ended, [], List.not_mem_nil⟩
    simpa [Layout.text, Layout.lines, Layout.restLines] using h
  · have h := readLines?_stream ⟨ended, last.content, last.newline_not_mem⟩
    rw [Layout.lines, Layout.restLines, if_neg hlast] at h
    exact h
  · obtain ⟨t, ht⟩ := isValidUTF8_iff.1 hs
    obtain ⟨l, rfl⟩ := exists_layout t
    have hbytes := ofBytes?_eq_some_iff.1 ht
    refine ⟨l.lines, ?_, l.newline_not_mem_lines, ?_, l, hbytes, rfl⟩
    · rw [readLines?, ht, Option.map_some, lines_text]
    · rw [hbytes, l.length_lines]

/-- Lines that have carriage returns inside, before another one, and at the very end. -/
theorem stream_lines_exact_returns :
    let ended : List EndedLine := [⟨"a\rb\r", .crlf, by decide, by decide⟩,
      ⟨"", .lf, by decide, by decide⟩]
    let last : EndedLine := ⟨"\r", .crlf, by decide, by decide⟩
    let s : ByteArray := stream (ended.flatMap EndedLine.text ++ last.content)
    last.content ≠ [] ∧
      readLines? s = some ["a\rb\r".toList, "".toList, "\r".toList] ∧
      s.IsValidUTF8 ∧
      ∃ inputs, readLines? s = some inputs ∧ inputs.length = 2 + 1 := by
  intro ended last s
  have hlast : last.content ≠ [] := by decide
  have hlines := stream_lines_exact.2.2.1 ended last hlast
  have hs : s.IsValidUTF8 := (stream_lines_exact.1 s).1.1 (by rw [hlines]; rfl)
  obtain ⟨inputs, hread, -, hlength, -⟩ := stream_lines_exact.2.2.2 s hs
  refine ⟨hlast, hlines, hs, inputs, hread, ?_⟩
  rw [hlength]
  rfl

end Text

end TextSieve
