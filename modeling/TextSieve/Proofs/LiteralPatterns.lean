import TextSieve.Proofs.Occurrences
import TextSieve.Proofs.Simplification
import TextSieve.Rule.Search

/-!
Patterns without operators. Such a pattern is read as its characters, one after the other, and the
search for it finds it wherever it occurs; with a dollar sign behind it, it is found at the end of
the text and nowhere else. So these searches accept the texts that the rules that compare texts
accept when case counts. They fail to compile for no reason but their size.
-/

namespace TextSieve

namespace Regex

/-- The characters that are not read as themselves outside brackets, and those that close what they
open. -/
def operators : Text := "\\.+*?()|[]\x7b\x7d^$"

/-- No character of the pattern is an operator. -/
def IsLiteral (p : Text) : Prop := ∀ c ∈ p, c ∉ operators

instance (p : Text) : Decidable (IsLiteral p) := List.decidableBAll _ p

/-! ### Reading -/

namespace Parse

/-- The nodes of characters that are read from a place on. -/
def literals (place : Place) : Text → List Node
  | [] => []
  | c :: t => .literal ⟨⟨place, place.after c⟩, c, false⟩ :: literals (place.after c) t

lemma step_literal {c : Char} (hc : c ∉ operators) (s : State) :
    s.step c = .ok { s with
      cursor := s.cursor.next
      concat := s.concat.push (.literal ⟨s.cursor.charSpan, c, false⟩) } := by
  have hatom : readAtom s.free s.cursor c =
      .ok (.literal ⟨s.cursor.charSpan, c, false⟩, s.cursor.next) := by
    unfold readAtom
    split
    all_goals first | rfl | exact absurd (by decide) hc
  unfold State.step
  split
  all_goals first | exact absurd (by decide) hc | rw [hatom]; rfl

section Loop

variable {p : Text} (hp : IsLiteral p)

include hp

/-- The reader takes the characters over one by one. By induction on them, wherever they begin and
whatever has been read. -/
lemma loop_literals (fuel : ℕ) (place : Place) (t : Text) (k : Concat) (stack : List Frame)
    (names : List (Text × Span)) :
    loop (p.length + fuel) ⟨⟨place, p ++ t⟩, false, k, stack, names⟩ =
      loop fuel ⟨⟨p.foldl Place.after place, t⟩, false,
        ⟨k.start, (literals place p).reverse ++ k.parts⟩, stack, names⟩ := by
  induction p generalizing place k with
  | nil => simp [literals]
  | cons c p ih =>
    obtain ⟨hc, hp⟩ := List.forall_mem_cons.1 hp
    have hlen : (c :: p).length + fuel = (p.length + fuel) + 1 := by
      rw [List.length_cons]
      omega
    have hstep := step_literal hc ⟨⟨place, c :: (p ++ t)⟩, false, k, stack, names⟩
    rw [hlen, List.cons_append, loop]
    change (State.step _ c >>= loop (p.length + fuel)) = _
    simp only [Cursor.skip, Bool.false_eq_true, if_false, hstep]
    refine (ih hp (place.after c) (k.push _)).trans ?_
    simp [literals, Concat.push, Cursor.charSpan, Cursor.next]

lemma readPattern_literal :
    readPattern p = .ok ((⟨.first, (literals .first p).reverse⟩ : Concat).node
      (p.foldl Place.after .first)) := by
  have h := loop_literals hp 1 .first [] ⟨.first, []⟩ [] []
  rw [List.append_nil, List.append_nil] at h
  exact h

lemma readPattern_literal_dollar :
    ∃ span stop, readPattern (p ++ ['$']) =
      .ok ((⟨.first, (literals .first p ++ [Node.assertion span .endLine]).reverse⟩ : Concat).node
        stop) := by
  have h := loop_literals hp 2 .first ['$'] ⟨.first, []⟩ [] []
  rw [List.append_nil] at h
  have hlen : (p ++ ['$']).length + 1 = p.length + 2 := by simp
  unfold readPattern
  rw [hlen]
  let place := p.foldl Place.after .first
  refine ⟨⟨place, place.after '$'⟩, place.after '$', h.trans ?_⟩
  rw [List.reverse_append]
  rfl

end Loop

end Parse

/-! ### What is read -/

/-- The forms of characters that stand for themselves. -/
def literalForms (p : Text) : List Form := p.map fun c => .literal [c]

namespace Meaning

lemma node_literal (span : Span) (c : Char) :
    node .initial (.literal ⟨span, c, false⟩) = .ok (.literal [c], .initial) := by
  change Except.ok (Form.ofSet true (.single c), Modes.initial) = _
  rw [Form.ofSet_single]

/-- What has been read stands for a sequence. A single part stands for itself. -/
lemma node_concat {m m' : Modes} {ns : List Node} {fs : List Form} (start stop : Place)
    (hns : nodes m ns = .ok (fs, m')) (hfs : ∀ f ∈ fs, Form.sequence [f] = f) :
    node m ((⟨start, ns.reverse⟩ : Parse.Concat).node stop) = .ok (.sequence fs, m') := by
  match ns with
  | [] =>
    cases hns
    rfl
  | [x] =>
    change node m x = _
    rw [nodes] at hns
    cases hx : node m x with
    | error e =>
      rw [hx] at hns
      cases hns
    | ok r =>
      rw [hx] at hns
      cases hns
      rw [hfs r.1 (List.mem_singleton_self _)]
  | x :: y :: ns =>
    have hnode : (⟨start, (x :: y :: ns).reverse⟩ : Parse.Concat).node stop =
        .concat ⟨start, stop⟩ (x :: y :: ns) := by
      unfold Parse.Concat.node
      split
      · next h => simp at h
      · next h => simpa using congrArg List.length h
      · rw [List.reverse_reverse]
    rw [hnode, node, hns]
    rfl

lemma nodes_literals_append (place : Place) (p : Text) (ns : List Node) :
    nodes .initial (Parse.literals place p ++ ns) =
      (nodes .initial ns).map fun r => (literalForms p ++ r.1, r.2) := by
  induction p generalizing place with
  | nil =>
    change nodes .initial ns = _
    cases nodes .initial ns <;> rfl
  | cons c p ih =>
    rw [Parse.literals, List.cons_append, nodes, node_literal]
    change (nodes .initial (Parse.literals (place.after c) p ++ ns) >>= _) = _
    rw [ih]
    cases nodes .initial ns <;> rfl

end Meaning

namespace Nesting

/-- The node opens no level. -/
def Flat (x : Node) : Prop := ∀ left, checkNode left x = .ok ()

lemma checkNodes_of_flat {left : ℕ} {ns : List Node} (h : ∀ x ∈ ns, Flat x) :
    checkNodes left ns = .ok () := by
  induction ns with
  | nil => rfl
  | cons x ns ih =>
    obtain ⟨hx, hns⟩ := List.forall_mem_cons.1 h
    rw [checkNodes, hx left, ih hns]
    rfl

lemma check_concat {start stop : Place} {ns : List Node} (h : ∀ x ∈ ns, Flat x) :
    check ((⟨start, ns.reverse⟩ : Parse.Concat).node stop) = .ok () := by
  unfold Parse.Concat.node check
  split
  · rfl
  · next x hx =>
    have hmem : x ∈ ns := by
      rw [← List.mem_reverse, show ns.reverse = [x] from hx]
      exact List.mem_singleton_self x
    exact h x hmem nestLimit
  · rw [checkNode, List.reverse_reverse]
    exact checkNodes_of_flat h

lemma flat_literals (place : Place) (p : Text) : ∀ x ∈ Parse.literals place p, Flat x := by
  induction p generalizing place with
  | nil => exact List.forall_mem_nil _
  | cons c p ih => exact List.forall_mem_cons.2 ⟨fun _ => rfl, ih _⟩

end Nesting

section Forms

variable {p : Text} (hp : IsLiteral p)

/-- A character or a condition is no sequence of its own. -/
lemma sequence_singleton_literalForms : ∀ f ∈ literalForms p, Form.sequence [f] = f := by
  intro f hf
  obtain ⟨c, -, rfl⟩ := List.mem_map.1 hf
  rfl

include hp

/-- A pattern without operators stands for its characters. -/
lemma formOf_literal : formOf p = .ok (.sequence (literalForms p)) := by
  have hmeaning := Meaning.nodes_literals_append .first p []
  rw [List.append_nil] at hmeaning
  have hnode := Meaning.node_concat .first (p.foldl Place.after .first) hmeaning fun f hf =>
    sequence_singleton_literalForms f (by simpa using hf)
  unfold formOf Meaning.ofNode
  rw [Parse.readPattern_literal hp]
  change (Nesting.check _ >>= fun _ => _) = _
  rw [Nesting.check_concat (Nesting.flat_literals _ p)]
  change (Meaning.node _ _).map _ = _
  rw [hnode, List.append_nil]
  rfl

/-- With a dollar sign behind it, the pattern stands for its characters and the end of the text. -/
lemma formOf_literal_dollar :
    formOf (p ++ ['$']) = .ok (.sequence (literalForms p ++ [.look .stop])) := by
  obtain ⟨span, stop, hread⟩ := Parse.readPattern_literal_dollar hp
  have hflat : ∀ x ∈ Parse.literals .first p ++ [Node.assertion span .endLine],
      Nesting.Flat x :=
    List.forall_mem_append.2 ⟨Nesting.flat_literals _ p,
      List.forall_mem_singleton.2 fun _ => rfl⟩
  have hnode := Meaning.node_concat .first stop
    (Meaning.nodes_literals_append .first p [.assertion span .endLine])
    (List.forall_mem_append.2 ⟨sequence_singleton_literalForms,
      List.forall_mem_singleton.2 rfl⟩)
  unfold formOf Meaning.ofNode
  rw [hread]
  change (Nesting.check _ >>= fun _ => _) = _
  rw [Nesting.check_concat hflat]
  change (Meaning.node _ _).map _ = _
  rw [hnode]
  rfl

end Forms

/-! ### Searching -/

section Search

variable {p text : Text} {i k : ℕ}

lemma cons_prefix_drop_iff {c : Char} :
    c :: p <+: text.drop i ↔ text[i]? = some c ∧ p <+: text.drop (i + 1) := by
  rw [← List.head?_drop, ← List.tail_drop]
  cases text.drop i with
  | nil => simp
  | cons d t => simp [List.cons_prefix_cons, eq_comm]

/-- Characters that stand for themselves lead past the places where they occur. -/
lemma leads_literalForms_append {fs : List Form} :
    (Form.concat (literalForms p ++ fs)).Leads text i k ↔
      p <+: text.drop i ∧ (Form.concat fs).Leads text (i + p.length) k := by
  induction p generalizing i with
  | nil => simp [literalForms]
  | cons c p ih =>
    have hcons : literalForms (c :: p) ++ fs = .literal [c] :: (literalForms p ++ fs) := rfl
    have hc (j : ℕ) : (Form.literal [c]).Leads text i j ↔
        ∃ d, text[i]? = some d ∧ d = c ∧ j = i + 1 := by
      simp only [← CharSet.contains_single]
      rfl
    rw [hcons, Form.leads_concat_cons, cons_prefix_drop_iff]
    simp only [hc, ih, List.length_cons, Nat.add_comm p.length 1]
    constructor
    · rintro ⟨_, ⟨d, hd, rfl, rfl⟩, hp, hk⟩
      exact ⟨⟨hd, hp⟩, by rwa [Nat.add_assoc] at hk⟩
    · rintro ⟨⟨hc, hp⟩, hk⟩
      exact ⟨i + 1, ⟨c, hc, rfl, rfl⟩, hp, by rwa [Nat.add_assoc]⟩

/-- A sequence is found where it leads from. -/
lemma search_sequence_iff {fs : List Form} : (Form.sequence fs).expr.search text = true ↔
    ∃ i ≤ text.length, ∃ j, (Form.concat fs).Leads text i j := by
  simp only [← Form.leads_sequence]
  exact Expr.search_iff

/-- The search for a literal pattern is the search for its occurrences. -/
lemma search_literalForms :
    (Form.sequence (literalForms p)).expr.search text = p.occursIn text := by
  rw [Bool.eq_iff_iff, search_sequence_iff, Text.occursIn_iff]
  have hleads : ∀ i j, (Form.concat (literalForms p)).Leads text i j ↔
      p <+: text.drop i ∧ i + p.length = j := by
    intro i j
    rw [← List.append_nil (literalForms p), leads_literalForms_append]
    rfl
  simp only [hleads]
  constructor
  · rintro ⟨i, -, j, ⟨b, hb⟩, -⟩
    refine ⟨text.take i, b, ?_⟩
    rw [List.append_assoc, hb, List.take_append_drop]
  · rintro ⟨a, b, rfl⟩
    refine ⟨a.length, by simp, _, ⟨b, ?_⟩, rfl⟩
    rw [List.append_assoc, List.drop_left]

lemma leads_look_stop : (Form.concat [.look .stop]).Leads text i k ↔
    i ≤ text.length ∧ text.drop i = [] ∧ i = k := by
  change i ≤ text.length ∧ (text.drop i).isEmpty = true ∧ i = k ↔ _
  rw [List.isEmpty_iff]

/-- With the end of the text behind it, the pattern is searched for at the end only. -/
lemma search_literalForms_stop :
    (Form.sequence (literalForms p ++ [.look .stop])).expr.search text = p.ends text := by
  rw [Bool.eq_iff_iff, search_sequence_iff, Text.ends_iff]
  simp only [leads_literalForms_append, leads_look_stop]
  constructor
  · rintro ⟨i, -, j, ⟨b, hb⟩, -, hend, -⟩
    refine ⟨text.take i, ?_⟩
    have hnil : b = [] := by
      rw [← List.drop_drop, ← hb, List.drop_left] at hend
      exact hend
    rw [hnil, List.append_nil] at hb
    rw [hb, List.take_append_drop]
  · rintro ⟨a, rfl⟩
    refine ⟨a.length, by simp, _, ⟨[], ?_⟩, ?_, ?_, rfl⟩
    · rw [List.append_nil, List.drop_left]
    · rw [List.length_append]
    · rw [← List.length_append, List.drop_length]

end Search

/-! ### Size -/

namespace Footprint

section Size

variable {backward : Bool} {f : Form} {fs gs : List Form}

lemma sizes_append : sizes backward (fs ++ gs) = sizes backward fs + sizes backward gs := by
  induction fs with
  | nil => simp [sizes]
  | cons f fs ih => rw [List.cons_append, sizes, sizes, ih, Nat.add_assoc]

lemma sizes_parts : sizes backward f.parts = size backward f := by
  cases f <;> rfl

lemma sizes_flatMap_parts : sizes backward (fs.flatMap Form.parts) = sizes backward fs := by
  induction fs with
  | nil => rfl
  | cons f fs ih => rw [List.flatMap_cons, sizes_append, sizes_parts, ih, sizes]

/-- Literals that meet take what they took apart, and what is empty takes nothing any more. -/
lemma sizes_push_le : sizes backward (Form.push f fs) ≤ size backward f + sizes backward fs := by
  unfold Form.push
  split
  · exact Nat.le_add_left _ _
  · rw [sizes, sizes, size, size, size, Text.byteSize_append, Nat.mul_add, Nat.add_assoc]
  · rfl

lemma sizes_foldr_push_le : sizes backward (fs.foldr Form.push []) ≤ sizes backward fs := by
  induction fs with
  | nil => rfl
  | cons f fs ih => exact sizes_push_le.trans (Nat.add_le_add_left ih _)

/-- A sequence takes no more than its forms, or one state if nothing is left of them. -/
lemma size_sequence_le {n : ℕ} (h : sizes backward fs ≤ n) (hn : stateSize ≤ n) :
    size backward (Form.sequence fs) ≤ n := by
  rw [← sizes_flatMap_parts] at h
  have hpush := sizes_foldr_push_le.trans h
  unfold Form.sequence
  split
  · exact hn
  · next f hf =>
    rw [hf] at hpush
    exact hpush
  · exact hpush

/-- Literal characters take one state for each of their bytes. -/
lemma sizes_literalForms (p : Text) :
    sizes backward (literalForms p) = stateSize * p.byteSize := by
  induction p with
  | nil => rfl
  | cons c p ih =>
    have hcons : literalForms (c :: p) = .literal [c] :: literalForms p := rfl
    rw [hcons, sizes, size, ih, ← Nat.mul_add, Text.byteSize_cons, Text.byteSize_cons,
      Text.byteSize_nil, Nat.add_zero]

lemma frameSize_le : frameSize backward f ≤ stateSize * 7 := by
  unfold frameSize
  cases backward <;> split <;> decide

/-- The states around a form and one state behind it take the room of eight. -/
lemma fits_of_size_le {n : ℕ} (h : ∀ backward, size backward f ≤ stateSize * (n + 1))
    (room : stateSize * (n + 8) ≤ sizeLimit) : fits sizeLimit f = true := by
  have htotal : ∀ backward, total backward f ≤ sizeLimit := fun backward =>
    calc total backward f ≤ stateSize * (n + 1) + stateSize * 7 :=
          Nat.add_le_add (h backward) frameSize_le
      _ = stateSize * (n + 8) := by rw [← Nat.mul_add]
      _ ≤ sizeLimit := room
  unfold fits
  simp only [htotal, decide_true, Bool.and_self, Bool.or_true]

end Size

end Footprint

end Regex

/-! ### The rules -/

namespace Rule

open Regex

/-- Searching for the pattern is the test of texts. A rule that is made for it keeps the wish about
case and, whatever the wish, accepts just the texts that pass; and the only reason to refuse it is
that it is too big. -/
structure SearchesAs (pattern : Text) (test : Text → Bool) : Prop where
  accepts : ∀ caseSensitive r, regex pattern caseSensitive = .ok r →
    r.caseSensitive = caseSensitive ∧ ∀ t, r.accepts t = test t
  refused : ∀ caseSensitive e, regex pattern caseSensitive = .error e →
    e = .invalidRegex pattern (Error.tooBig.message pattern)

section Compile

variable {pattern : Text} {f : Form} (h : formOf pattern = .ok f)

include h

lemma compile_of_formOf : compile pattern =
    if Footprint.fits sizeLimit f then .ok ⟨pattern, f.expr⟩ else .error .tooBig := by
  unfold compile
  rw [h]

lemma exists_regex (fits : Footprint.fits sizeLimit f = true) (caseSensitive : Bool) :
    ∃ r, regex pattern caseSensitive = .ok r := by
  unfold regex
  rw [compile_of_formOf h, if_pos fits]
  exact ⟨_, rfl⟩

lemma searchesAs {test : Text → Bool} (hsearch : ∀ t, f.expr.search t = test t) :
    SearchesAs pattern test := by
  constructor
  · intro caseSensitive r hr
    unfold regex at hr
    rw [compile_of_formOf h] at hr
    split_ifs at hr
    cases hr
    exact ⟨rfl, hsearch⟩
  · intro caseSensitive e he
    unfold regex at he
    rw [compile_of_formOf h] at he
    split_ifs at he
    cases he
    rfl

end Compile

/-- **Searching for a literal pattern is comparing with it.** For a pattern without operators, the
search accepts the texts that `contains` accepts when case counts, and with a dollar sign behind the
pattern those that `endswith` accepts, whatever is wished about case. Both patterns compile if there
is room for them, which is eight states more than there are bytes in the pattern. -/
theorem regex_agrees_on_literals {p : Text} (hp : IsLiteral p) :
    SearchesAs p (contains p true).accepts ∧
    SearchesAs (p ++ ['$']) (endsWith p true).accepts ∧
    (Footprint.stateSize * (p.byteSize + 8) ≤ sizeLimit → ∀ caseSensitive,
      (∃ r, regex p caseSensitive = .ok r) ∧ ∃ r, regex (p ++ ['$']) caseSensitive = .ok r) := by
  refine ⟨searchesAs (formOf_literal hp) fun t => search_literalForms,
    searchesAs (formOf_literal_dollar hp) fun t => search_literalForms_stop,
    fun room caseSensitive => ⟨?_, ?_⟩⟩
  · refine exists_regex (formOf_literal hp) (Footprint.fits_of_size_le (fun backward => ?_) room) _
    refine Footprint.size_sequence_le ?_ (Nat.le_mul_of_pos_right _ (Nat.succ_pos _))
    rw [Footprint.sizes_literalForms]
    exact Nat.mul_le_mul_left _ (Nat.le_succ _)
  · refine exists_regex (formOf_literal_dollar hp)
      (Footprint.fits_of_size_le (fun backward => ?_) room) _
    refine Footprint.size_sequence_le ?_ (Nat.le_mul_of_pos_right _ (Nat.succ_pos _))
    rw [Footprint.sizes_append, Footprint.sizes_literalForms]
    exact Nat.le_of_eq (Nat.mul_succ _ _).symm

/-- A pattern that overlaps itself, in a text that ends with a line feed. -/
theorem regex_agrees_on_literals_overlapping :
    let p : Text := "a#a"
    let t : Text := "A a#a#a\n"
    IsLiteral p ∧ ∃ r s, regex p false = .ok r ∧ regex (p ++ ['$']) false = .ok s ∧
      r.accepts t = true ∧ s.accepts t = false ∧ s.accepts "A a#a#a" = true := by
  intro p t
  have hp : IsLiteral p := by decide
  obtain ⟨hcontains, hends, hroom⟩ := regex_agrees_on_literals hp
  obtain ⟨⟨r, hr⟩, ⟨s, hs⟩⟩ := hroom (by decide) false
  refine ⟨hp, r, s, hr, hs, ?_, ?_, ?_⟩
  · rw [(hcontains.accepts false r hr).2]
    decide
  · rw [(hends.accepts false s hs).2]
    decide
  · rw [(hends.accepts false s hs).2]
    decide

end Rule

end TextSieve
