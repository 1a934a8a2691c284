import LinkedDocs.Proofs.ExpressionBlock
import LinkedDocs.Template.Decoding

/-! Strings cut into segments, and strings put together again.

    A string is literal text except where a placeholder or a block starts. The scan cuts it there
    and takes everything else as it is, so a string in which nothing starts is itself, whatever it
    is bound to. It stops at a block that is never closed, and at a placeholder with too many
    digits. A placeholder that is bound to a text has just that text put in its place: the text is
    not cut again, and the segments around it stay as they are. -/

namespace LinkedDocs

open Scan

namespace Segment

open Template

/-! ### Where text ends -/

/-- A placeholder or a block starts here. -/
inductive Starts : List Char → Prop
  | placeholder {d : Char} {cs : List Char} (hd : Text.isDigit d = true) : Starts ('?' :: d :: cs)
  | marked {c : Char} {cs : List Char} (hc : c = '?' ∨ c = ':') : Starts (c :: '#' :: '{' :: cs)
  | bare (cs : List Char) : Starts ('#' :: '{' :: cs)

/-- The segment that stands in front of the rest of a text, and its characters. -/
inductive Front : Segment → List Char → List Char → Prop
  | text {w rest : List Char} (hw : w ≠ [])
    (h : ∀ u v, w = u ++ v → v ≠ [] → ¬Starts (v ++ rest)) : Front (.text (String.ofList w)) w rest
  | placeholder {ds rest : List Char} (hds : ds ≠ []) (digits : ∀ d ∈ ds, Text.isDigit d = true)
    (ends : ∀ d ∈ rest.head?, Text.isDigit d = false) (short : ds.length ≤ Text.digitLimit) :
    Front (.placeholder (Text.digitsValue ds)) ('?' :: ds) rest
  | expression {c : Char} {src rest : List Char} (hc : c = '?' ∨ c = ':')
    (closed : Block.closing 0 0 (src ++ '}' :: rest) = some src.length) :
    Front (.expression (String.ofList src)) (c :: '#' :: '{' :: (src ++ ['}'])) rest
  | bare {src rest : List Char}
    (closed : Block.closing 0 0 (src ++ '}' :: rest) = some src.length) :
    Front (.bare (String.ofList src)) ('#' :: '{' :: (src ++ ['}'])) rest

/-- A placeholder stands here whose digits are too many to be read. -/
inductive StartsOverlong : List Char → Prop
  | intro {ds rest : List Char} (digits : ∀ d ∈ ds, Text.isDigit d = true)
    (ends : ∀ d ∈ rest.head?, Text.isDigit d = false) (long : Text.digitLimit < ds.length) :
    StartsOverlong ('?' :: (ds ++ rest))

/-- A text is cut into segments. -/
inductive Cuts : List Segment → List Char → Prop
  | nil : Cuts [] []
  | cons {a : Segment} {w rest : List Char} {ss : List Segment} (h : Front a w rest)
    (hs : Cuts ss rest) : Cuts (a :: ss) (w ++ rest)

variable {a : Segment} {c : Char} {cs w rest : List Char} {n p : Nat} {ss : List Segment}

theorem Front.ne_nil (h : Front a w rest) : w ≠ [] := by
  cases h with
  | text hw _ => exact hw
  | placeholder => exact List.cons_ne_nil _ _
  | expression => exact List.cons_ne_nil _ _
  | bare => exact List.cons_ne_nil _ _

/-! ### The scan cuts -/

theorem markedOpener?_eq_some (h : Block.markedOpener? cs = some n) :
    n = 3 ∧ ∃ c rest, (c = '?' ∨ c = ':') ∧ cs = c :: '#' :: '{' :: rest := by
  unfold Block.markedOpener? at h
  split at h
  · next c rest =>
    split at h
    · next hc =>
      cases h
      exact ⟨rfl, c, rest, hc, rfl⟩
    · cases h
  · cases h

theorem bareOpener?_eq_some (h : Block.bareOpener? cs = some n) :
    n = 2 ∧ ∃ rest, cs = '#' :: '{' :: rest := by
  unfold Block.bareOpener? at h
  split at h
  · next rest =>
    cases h
    exact ⟨rfl, rest, rfl⟩
  · cases h

/-- The source of a block ends in front of the brace that closes it. -/
theorem body?_eq_some (opener : List Char) {src : List Char} {length : Nat}
    (h : Block.body? opener.length (opener ++ cs) = some (src, length)) :
    ∃ rest, cs = src ++ '}' :: rest ∧ length = (opener ++ (src ++ ['}'])).length ∧
      Block.closing 0 0 (src ++ '}' :: rest) = some src.length := by
  rw [Block.body?, List.drop_left] at h
  obtain ⟨m, hm, heq⟩ := Option.map_eq_some_iff.1 h
  obtain ⟨src', rest, rfl, rfl⟩ := Block.closing_brace hm
  obtain ⟨rfl, rfl⟩ := Prod.mk.inj heq
  rw [List.take_left]
  exact ⟨rest, rfl, by simp; omega, hm⟩

theorem placeholderLength?_eq_some (h : placeholderLength? cs = some n) :
    ∃ ds rest, cs = '?' :: (ds ++ rest) ∧ n = ds.length + 1 ∧ ds ≠ [] ∧
      (∀ d ∈ ds, Text.isDigit d = true) ∧ ∀ d ∈ rest.head?, Text.isDigit d = false := by
  unfold placeholderLength? at h
  split at h
  · next cs =>
    dsimp only at h
    split at h
    · cases h
    · next hn =>
      cases h
      refine ⟨cs.takeWhile Text.isDigit, cs.dropWhile Text.isDigit, ?_, rfl, ?_, ?_, ?_⟩
      · rw [List.takeWhile_append_dropWhile]
      · exact fun none => hn (by rw [runLength, none]; rfl)
      · exact fun d hd => List.mem_takeWhile_imp hd
      · intro d hd
        have first := List.head?_dropWhile_not Text.isDigit cs
        rw [Option.mem_def.1 hd] at first
        simpa using first
  · cases h

/-- Nothing starts where no rule of a placeholder or block applies. -/
theorem not_starts (marked : Block.markedOpener? cs = none) (bare : Block.bareOpener? cs = none)
    (placeholder : placeholderLength? cs = none) : ¬Starts cs := by
  rintro (⟨hd⟩ | ⟨hc⟩ | _)
  · simp [placeholderLength?, runLength, hd] at placeholder
  · simp [Block.markedOpener?, hc] at marked
  · cases bare

theorem not_starts_of_ordinary (h : isSpecial c = false) : ¬Starts (c :: cs) := by
  rintro (_ | ⟨rfl | rfl⟩ | _) <;> cases h

/-- A character where nothing starts is a segment. -/
theorem Front.char (h : ¬Starts (c :: cs)) : Front (.text c.toString) [c] cs := by
  refine .text (List.cons_ne_nil _ _) fun u v heq hv => ?_
  have whole : v = [c] := by
    cases u with
    | nil => exact heq.symm
    | cons d u =>
      obtain ⟨-, hnil⟩ := List.cons.inj heq
      exact absurd (List.append_eq_nil_iff.1 hnil.symm).2 hv
  rw [whole]
  exact h

/-- Nothing starts within ordinary characters. -/
theorem Front.ordinary (hw : w ≠ []) (h : ∀ d ∈ w, isSpecial d = false) :
    Front (.text (String.ofList w)) w rest := by
  refine .text hw fun u v heq hv => ?_
  obtain ⟨d, v, rfl⟩ := List.exists_cons_of_ne_nil hv
  refine not_starts_of_ordinary (h d ?_)
  rw [heq]
  exact List.mem_append_right u List.mem_cons_self

/-- What the rule takes is what stands in front. -/
theorem front_of_rule (h : rule p (c :: cs) = .token a n) :
    ∃ w rest, c :: cs = w ++ rest ∧ w.length = n ∧ Front a w rest := by
  rw [rule] at h
  split at h
  · next hmark =>
    obtain ⟨rfl, c, rest, hc, heq⟩ := markedOpener?_eq_some hmark
    rw [heq] at h ⊢
    split at h
    · next src _ hbody =>
      cases h
      obtain ⟨rest, rfl, rfl, closed⟩ := body?_eq_some [c, '#', '{'] hbody
      exact ⟨_, rest, by simp, rfl, .expression hc closed⟩
    · cases h
  · next hbare =>
    obtain ⟨rfl, rest, heq⟩ := bareOpener?_eq_some hbare
    rw [heq] at h ⊢
    split at h
    · next src _ hbody =>
      cases h
      obtain ⟨rest, rfl, rfl, closed⟩ := body?_eq_some ['#', '{'] hbody
      exact ⟨_, rest, by simp, rfl, .bare closed⟩
    · cases h
  · next marked bare =>
    split at h
    · next hlength =>
      obtain ⟨rfl, rfl, readable⟩ := Lexeme.of_eq_token h
      obtain ⟨ds, rest, heq, rfl, hds, digits, ends⟩ := placeholderLength?_eq_some hlength
      cases heq
      rw [Nat.add_sub_cancel, List.take_left] at readable ⊢
      have short := readable rfl
      rw [isReadable_digits digits, decide_eq_true_iff] at short
      exact ⟨'?' :: ds, rest, rfl, rfl, .placeholder hds digits ends short⟩
    · next placeholder =>
      split at h
      · cases h
        exact ⟨[c], cs, rfl, rfl, .char (not_starts marked bare placeholder)⟩
      · next special =>
        cases h
        rw [runLength, ← List.prefix_iff_eq_take.1 (List.takeWhile_prefix _)]
        refine ⟨c :: cs.takeWhile (fun c => !isSpecial c), cs.dropWhile (fun c => !isSpecial c), ?_,
          rfl, .ordinary (List.cons_ne_nil _ _) fun d hd => ?_⟩
        · rw [List.cons_append, List.takeWhile_append_dropWhile]
        · rcases List.mem_cons.1 hd with rfl | hd
          · exact Bool.eq_false_iff.2 special
          · simpa using List.mem_takeWhile_imp hd

/-- A text is what the rule takes at its front and the rest of it. -/
theorem exists_front (h : rule p (c :: cs) = .token a n) :
    ∃ w, c :: cs = w ++ cs.drop (n - 1) ∧ w.length = n ∧ Front a w (cs.drop (n - 1)) := by
  obtain ⟨w, rest, heq, rfl, front⟩ := front_of_rule h
  obtain ⟨d, w, rfl⟩ := List.exists_cons_of_ne_nil front.ne_nil
  obtain ⟨rfl, rfl⟩ := List.cons.inj heq
  rw [List.length_cons, Nat.add_sub_cancel, List.append_eq, List.drop_left]
  exact ⟨c :: w, rfl, rfl, front⟩

/-- The rule takes something, unless a block that starts here is never closed or a placeholder has
    too many digits. -/
theorem rule_cases (p : Nat) (c : Char) (cs : List Char) :
    (∃ a n, rule p (c :: cs) = .token a n) ∨ rule p (c :: cs) = .openBlock ∨
      rule p (c :: cs) = .failure (.misuse .content) ∧ StartsOverlong (c :: cs) := by
  rw [rule]
  split
  · split
    · exact .inl ⟨_, _, rfl⟩
    · exact .inr (.inl rfl)
  · split
    · exact .inl ⟨_, _, rfl⟩
    · exact .inr (.inl rfl)
  · split
    · next n hlength =>
      obtain ⟨ds, rest, heq, rfl, -, digits, ends⟩ := placeholderLength?_eq_some hlength
      cases heq
      rw [Nat.add_sub_cancel, List.take_left]
      rcases Lexeme.of_cases true ds (Segment.placeholder (Text.digitsValue ds)) (ds.length + 1)
        with ⟨found, -⟩ | ⟨found, -, long⟩
      · exact .inl ⟨_, _, found⟩
      · rw [isReadable_digits digits, decide_eq_false_iff_not, Nat.not_le] at long
        exact .inr (.inr ⟨found, .intro digits ends long⟩)
    · split <;> exact .inl ⟨_, _, rfl⟩

theorem rule_ne_skip (p : Nat) (c : Char) (cs : List Char) : rule p (c :: cs) ≠ .skip := by
  intro hskip
  obtain ⟨a, n, h⟩ | h | ⟨h, -⟩ := rule_cases p c cs <;> cases hskip.symm.trans h

theorem split_eq_ok {source : String} : split source = .ok ss ↔
    (scanFrom rule 0 0 source.toList).ending = .complete ∧
      (scanFrom rule 0 0 source.toList).tokens.map (·.token) = ss := by
  unfold split result
  cases (scanFrom rule 0 0 source.toList).ending <;> simp [Except.map]

/-- The segments of a text are a cut of it. -/
theorem cuts_of_split {source : String} (h : split source = .ok ss) : Cuts ss source.toList := by
  obtain ⟨complete, rfl⟩ := split_eq_ok.1 h
  refine scan_induction (P := fun cs ss => Cuts ss cs) .nil ?_ ?_ complete
  · exact fun p c cs ss hskip _ => absurd hskip (rule_ne_skip p c cs)
  · intro p c cs ss a n hrule ih
    obtain ⟨w, heq, -, front⟩ := exists_front hrule
    rw [heq]
    exact .cons front ih

/-! ### Literal text -/

/-- No placeholder and no block stands anywhere in the text. -/
def IsLiteral (cs : List Char) : Prop :=
  (∀ d, Text.isDigit d = true → ¬['?', d] <:+: cs) ∧ ¬['#', '{'] <:+: cs

/-- Whether neither a placeholder nor the opener of a block stands right here. -/
def isLiteralHere : List Char → Bool
  | '?' :: d :: _ => !Text.isDigit d
  | '#' :: '{' :: _ => false
  | _ => true

theorem isLiteral_iff : IsLiteral cs ↔ ∀ v ∈ cs.tails, isLiteralHere v = true := by
  constructor
  · rintro ⟨placeholder, opener⟩ v hv
    obtain ⟨u, rfl⟩ := (List.mem_tails v _).1 hv
    unfold isLiteralHere
    split
    · next d v =>
      have none : ¬Text.isDigit d = true := fun hd => placeholder d hd ⟨u, v, by simp⟩
      simpa using none
    · next v => exact absurd ⟨u, v, by simp⟩ opener
    · rfl
  · intro h
    constructor
    · rintro d hd ⟨u, v, rfl⟩
      have here := h ('?' :: d :: v) ((List.mem_tails _ _).2 ⟨u, by simp⟩)
      rw [isLiteralHere, hd] at here
      cases here
    · rintro ⟨u, v, rfl⟩
      have here := h ('#' :: '{' :: v) ((List.mem_tails _ _).2 ⟨u, by simp⟩)
      cases here

instance : Decidable (IsLiteral cs) := decidable_of_iff _ isLiteral_iff.symm

theorem IsLiteral.not_starts {u v : List Char} (h : IsLiteral (u ++ v)) : ¬Starts v := by
  rintro (@⟨d, cs, hd⟩ | @⟨c, cs, _⟩ | cs)
  · exact h.1 d hd ⟨u, cs, by simp⟩
  · exact h.2 ⟨u ++ [c], cs, by simp⟩
  · exact h.2 ⟨u, cs, by simp⟩

theorem IsLiteral.of_append {u v : List Char} (h : IsLiteral (u ++ v)) : IsLiteral v :=
  have suffix : v <:+: u ++ v := (List.suffix_append u v).isInfix
  ⟨fun d hd infix' => h.1 d hd (infix'.trans suffix), fun infix' => h.2 (infix'.trans suffix)⟩

/-- Where nothing starts, the rule takes a special character, or the ordinary ones up to the next
    special character. -/
theorem rule_text (h : ¬Starts (c :: cs)) (p : Nat) : rule p (c :: cs) =
    if isSpecial c then .token (.text c.toString) 1
    else .token (.text (String.ofList (c :: cs.take (runLength (fun c => !isSpecial c) cs))))
      (runLength (fun c => !isSpecial c) cs + 1) := by
  have marked : Block.markedOpener? (c :: cs) = none := by
    refine Option.eq_none_iff_forall_ne_some.2 fun n hn => ?_
    obtain ⟨-, d, rest, hd, heq⟩ := markedOpener?_eq_some hn
    rw [heq] at h
    exact h (.marked hd)
  have bare : Block.bareOpener? (c :: cs) = none := by
    refine Option.eq_none_iff_forall_ne_some.2 fun n hn => ?_
    obtain ⟨-, rest, heq⟩ := bareOpener?_eq_some hn
    rw [heq] at h
    exact h (.bare rest)
  have placeholder : placeholderLength? (c :: cs) = none := by
    refine Option.eq_none_iff_forall_ne_some.2 fun n hn => ?_
    obtain ⟨ds, rest, heq, -, hds, digits, -⟩ := placeholderLength?_eq_some hn
    obtain ⟨d, ds, rfl⟩ := List.exists_cons_of_ne_nil hds
    rw [heq] at h
    exact h (.placeholder (digits d List.mem_cons_self))
  rw [rule, marked, bare, placeholder]

/-- A literal text is cut. -/
theorem split_literal {source : String} (h : IsLiteral source.toList) :
    ∃ ss, split source = .ok ss := by
  have complete : (scanFrom rule 0 0 source.toList).ending = .complete := by
    refine scanFrom_complete fun p u c v heq => .inl ?_
    rw [heq] at h
    rw [rule_text h.not_starts]
    split <;> exact ⟨_, _, rfl⟩
  exact ⟨_, split_eq_ok.2 ⟨complete, rfl⟩⟩

/-! ### Putting segments together -/

/-- What a segment contributes to its string: its own text, or whatever it is bound to. -/
inductive Holds : Segment → Option String → Prop
  | text (t : String) : Holds (.text t) (some t)
  | bare (src : String) : Holds (.bare src) (some ("#\x7b" ++ src ++ "\x7d"))
  | placeholder (n : Nat) : Holds (.placeholder n) none

/-- The pieces of a string, with a text in place of each one that is missing. -/
def fill (s : String) : List (Option String) → String
  | [] => ""
  | piece :: pieces => piece.getD s ++ fill s pieces

/-- Segments without expressions have pieces. -/
theorem exists_pieces (h : ∀ src, .expression src ∉ ss) : ∃ pieces, List.Forall₂ Holds ss pieces := by
  induction ss with
  | nil => exact ⟨[], .nil⟩
  | cons a ss ih =>
    obtain ⟨pieces, hpieces⟩ := ih fun src hsrc => h src (List.mem_cons_of_mem a hsrc)
    have piece : ∃ piece, Holds a piece := by
      cases a with
      | text t => exact ⟨_, .text t⟩
      | placeholder n => exact ⟨_, .placeholder n⟩
      | expression src => exact absurd List.mem_cons_self (h src)
      | bare src => exact ⟨_, .bare src⟩
    exact ⟨_ :: pieces, .cons piece.choose_spec hpieces⟩

/-- Whether the segment is text whatever the binding is. A block without a mark is. -/
def isVerbatim : Segment → Bool
  | .text _ | .bare _ => true
  | _ => false

/-- Where nothing is bound, the pieces of a text make it up, whatever is to be filled in. -/
theorem Cuts.verbatim (h : Cuts ss cs) (hss : ∀ a ∈ ss, a.isVerbatim = true) (s : String) :
    ∃ pieces, List.Forall₂ Holds ss pieces ∧ none ∉ pieces ∧ fill s pieces = String.ofList cs := by
  induction h with
  | nil => exact ⟨[], .nil, List.not_mem_nil, rfl⟩
  | @cons a w rest ss front _ ih =>
    rw [List.forall_mem_cons] at hss
    obtain ⟨here, behind⟩ := hss
    obtain ⟨pieces, hpieces, full, hfill⟩ := ih behind
    cases front with
    | text =>
      refine ⟨_, .cons (.text _) hpieces, by simpa using full, ?_⟩
      rw [fill, hfill, Option.getD_some, String.ofList_append]
    | placeholder => cases here
    | expression => cases here
    | @bare src =>
      refine ⟨_, .cons (.bare _) hpieces, by simpa using full, ?_⟩
      have piece : "#\x7b" ++ String.ofList src ++ "\x7d"
          = String.ofList ('#' :: '{' :: (src ++ ['}'])) := by
        rw [← String.toList_inj]
        simp
      rw [fill, hfill, Option.getD_some, piece, String.ofList_append]

/-- Nothing is bound in a literal text. -/
theorem Cuts.isVerbatim (h : Cuts ss cs) (literal : IsLiteral cs) :
    ∀ a ∈ ss, a.isVerbatim = true := by
  induction h with
  | nil => exact List.forall_mem_nil _
  | @cons a w rest ss front _ ih =>
    have here : ¬Starts (w ++ rest) := IsLiteral.not_starts (u := []) literal
    refine List.forall_mem_cons.2 ⟨?_, ih literal.of_append⟩
    cases front with
    | text => rfl
    | placeholder hds digits _ _ =>
      obtain ⟨d, ds, rfl⟩ := List.exists_cons_of_ne_nil hds
      exact absurd (.placeholder (digits d List.mem_cons_self)) here
    | expression hc => exact absurd (.marked hc) here
    | bare => exact absurd (.bare _) here

end Segment

namespace Binding

open Segment

variable {b : Binding} {c s : String} {ss : List Segment} {pieces : List (Option String)}

/-- A text that is the whole source of a binding is every parameter. -/
theorem parameter_of_text (h : b.source = .text s) (n : Int) : b.parameter n = .ok (.text s) := by
  rw [parameter, h]
  rfl

/-- Segments are rendered by filling the text they are bound to into their pieces. -/
theorem renderAll_holds (h : List.Forall₂ Holds ss pieces) (hb : none ∈ pieces → b.source = .text s)
    (m : Memory) : (renderAll b.renderQuoted ss).exec m = (.ok (fill s pieces), m) := by
  induction h with
  | nil => rfl
  | @cons a piece ss pieces ha _ ih =>
    have front : (b.renderQuoted a).exec m = (.ok (piece.getD s), m) := by
      cases ha with
      | text => rfl
      | bare => rfl
      | placeholder n =>
        rw [renderQuoted, parameter_of_text (hb List.mem_cons_self)]
        rfl
    rw [renderAll, Run.exec_bind, front]
    simp only
    rw [Run.exec_bind, ih fun missing => hb (List.mem_cons_of_mem _ missing)]
    rfl

/-- A quoted string has the text it is bound to filled into its pieces. -/
theorem bindString_holds (hsplit : Segment.split c = .ok ss) (h : List.Forall₂ Holds ss pieces)
    (hb : none ∈ pieces → b.source = .text s) (m : Memory) :
    (b.bindString c).exec m = (.ok (.text (fill s pieces)), m) := by
  rw [bindString, hsplit, Run.exec_bind, Run.exec_lift]
  simp only
  split
  · -- the string is just one placeholder, so nothing is rendered
    obtain ⟨piece, _, ⟨⟩, hnil, rfl⟩ := List.forall₂_cons_left_iff.1 h
    rw [List.forall₂_nil_left_iff.1 hnil] at hb ⊢
    rw [parameter_of_text (hb List.mem_cons_self), Run.exec_bind, Run.exec_lift]
    simp [fill, Value.stored]
  · obtain ⟨_, _, ⟨⟩, -⟩ := List.forall₂_cons_left_iff.1 h
  · rw [Run.exec_bind, renderAll_holds h hb]
    rfl

variable (b)

/-- A text in which nothing is bound is itself, whatever the binding. -/
theorem interpolate_verbatim (hsplit : Segment.split c = .ok ss)
    (hss : ∀ a ∈ ss, a.isVerbatim = true) (m : Memory) : (b.interpolate c).exec m = (.ok c, m) := by
  obtain ⟨pieces, hpieces, full, hfill⟩ := (cuts_of_split hsplit).verbatim hss ""
  rw [interpolate, hsplit, Run.exec_bind, Run.exec_lift]
  simp only
  rw [renderAll_holds hpieces fun missing => absurd missing full, hfill, String.ofList_toList]

theorem bindString_verbatim (hsplit : Segment.split c = .ok ss)
    (hss : ∀ a ∈ ss, a.isVerbatim = true) (m : Memory) :
    (b.bindString c).exec m = (.ok (.text c), m) := by
  obtain ⟨pieces, hpieces, full, hfill⟩ := (cuts_of_split hsplit).verbatim hss ""
  rw [bindString_holds hsplit hpieces fun missing => absurd missing full, hfill,
    String.ofList_toList]

/-- A literal text is itself. -/
theorem interpolate_literal (literal : IsLiteral c.toList) (m : Memory) :
    (b.interpolate c).exec m = (.ok c, m) := by
  obtain ⟨ss, hsplit⟩ := split_literal literal
  exact b.interpolate_verbatim hsplit ((cuts_of_split hsplit).isVerbatim literal) m

theorem bindString_literal (literal : IsLiteral c.toList) (m : Memory) :
    (b.bindString c).exec m = (.ok (.text c), m) := by
  obtain ⟨ss, hsplit⟩ := split_literal literal
  exact b.bindString_verbatim hsplit ((cuts_of_split hsplit).isVerbatim literal) m

end Binding

end LinkedDocs
