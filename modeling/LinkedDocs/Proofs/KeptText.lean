import LinkedDocs.Proofs.Evaluation
import LinkedDocs.Proofs.LosslessSplit
import LinkedDocs.Template.Plain

/-! The text around the blocks of a plain template.

    A text falls into pieces in just one way: blocks, digits behind a question mark, and the other
    characters. A block alone gives its value. Otherwise the text is kept, but for the blocks, each
    of which the text of its value stands for, and for numbers: in a text with a block in it they
    are written anew, without leading zeros and in ASCII digits. A number with too many digits is no
    piece. -/

namespace LinkedDocs

open Scan Template

/-! ### Pieces of a text -/

/-- A piece of a plain template. -/
inductive Piece where
  | character (c : Char)
  /-- Digits that a question mark stands before. -/
  | number (digits : List Char)
  | block (opener : Opener) (source : List Char)

namespace Piece

def written : Piece → List Char
  | character c => [c]
  | number ds => '?' :: ds
  | block o source => o.text.toList ++ (source ++ ['}'])

def segment : Piece → Segment
  | character c => .text c.toString
  | number ds => .placeholder (Text.digitsValue ds)
  | block o source => o.segment (String.ofList source)

def isBlock : Piece → Bool
  | block .. => true
  | _ => false

/-- The piece, a number in its fewest digits. -/
def shortened : Piece → Piece
  | number ds => number (Nat.toDigits 10 (Text.digitsValue ds))
  | p => p

end Piece

/-- A piece stands in front of the rest of a text. Digits go on as far as they can, and a block to
    the brace that closes it. -/
inductive Stands : Piece → List Char → Prop
  | character {c : Char} {rest : List Char} (h : ¬Segment.Starts (c :: rest)) :
    Stands (.character c) rest
  | number {ds rest : List Char} (hds : ds ≠ []) (digits : ∀ d ∈ ds, Text.isDigit d = true)
    (ends : ∀ d ∈ rest.head?, Text.isDigit d = false) (short : ds.length ≤ Text.digitLimit) :
    Stands (.number ds) rest
  | block (o : Opener) {source rest : List Char}
    (closes : Block.ClosesAt 0 (Block.unquoted 0 (source ++ '}' :: rest)) source.length) :
    Stands (.block o source) rest

/-- A text falls into pieces. -/
inductive Pieces : List Piece → List Char → Prop
  | nil : Pieces [] []
  | cons {p : Piece} {rest : List Char} {ps : List Piece} (h : Stands p rest)
    (hs : Pieces ps rest) : Pieces (p :: ps) (p.written ++ rest)

/-- What is in the place of a piece: the text of its value for a block, and else the piece. -/
inductive Shows (b : Binding) : Piece → List Char → Prop
  | character (c : Char) : Shows b (.character c) [c]
  | number (ds : List Char) : Shows b (.number ds) ('?' :: ds)
  | block {o : Opener} {source : List Char} {v : Value} {s : String}
    (h : (b.evaluate (String.ofList source)).outcome .fresh = .ok v)
    (hs : Binding.rendered v = .ok s) : Shows b (.block o source) s.toList

/-- The value of a text in these pieces. -/
def Rendering (b : Binding) : List Piece → Value → Prop
  | [.block _ source], v => (b.evaluate (String.ofList source)).outcome .fresh = .ok v
  | ps, v => ∃ outs, List.Forall₂ (Shows b) ps outs ∧ v = .text (String.ofList outs.flatten)

/-- The pieces that a text is rendered by. -/
def rewritten (ps : List Piece) : List Piece :=
  if ps.any Piece.isBlock then ps.map Piece.shortened else ps

/-! ### One way to take a text to pieces -/

variable {a : Segment} {cs w rest rest' : List Char} {p q : Piece} {ps qs : List Piece}
  {ss : List Segment} {pss : List (List Piece)} {outs : List (List Char)}

namespace Segment

/-- What is no text starts at its front. -/
theorem Front.starts (h : Front a w rest) (bound : ∀ t, a ≠ .text t) : Starts (w ++ rest) := by
  cases h with
  | text => exact absurd rfl (bound _)
  | placeholder hds digits =>
    obtain ⟨d, ds, rfl⟩ := List.exists_cons_of_ne_nil hds
    exact .placeholder (digits d List.mem_cons_self)
  | expression hc => exact .marked hc
  | bare => exact .bare _

/-- A text that is cut is scanned to its end. -/
theorem Cuts.complete (h : Cuts ss cs) (n : Nat) :
    (scanFrom Segment.rule 0 n cs).ending = .complete := by
  induction h generalizing n with
  | nil => rfl
  | cons front _ ih => rw [front.ending, ih]

end Segment

/-- A piece is cut off as a segment. -/
theorem Stands.front (h : Stands p rest) : Segment.Front p.segment p.written rest := by
  cases h with
  | character h => exact .char h
  | number hds digits ends short => exact .placeholder hds digits ends short
  | block o closes =>
    have closed := Block.closing_eq_some.2 closes
    cases o with
    | bare => exact .bare closed
    | question => exact .expression (.inl rfl) closed
    | colon => exact .expression (.inr rfl) closed

namespace Piece

theorem segment_ne_text (h : ∀ c, p ≠ .character c) (t : String) : p.segment ≠ .text t := by
  cases p with
  | character c => exact absurd rfl (h c)
  | number ds => exact Segment.noConfusion
  | block o source => cases o <;> exact Segment.noConfusion

/-- Pieces of one kind that are written alike are the same. -/
theorem eq_of_written (hsegment : p.segment = q.segment) (h : p.written = q.written) : p = q := by
  cases p with
  | character c =>
    cases q with
    | character d => rw [List.cons.inj h |>.1]
    | number => cases hsegment
    | block o => cases o <;> cases hsegment
  | number ds =>
    cases q with
    | character => cases hsegment
    | number => rw [List.cons.inj h |>.2]
    | block o => cases o <;> cases hsegment
  | block o source =>
    cases q with
    | character => cases o <;> cases hsegment
    | number => cases o <;> cases hsegment
    | block o' source' =>
      -- The first two characters tell the openers apart.
      have opener : o = o' := by
        cases o <;> cases o' <;> first | rfl | exact absurd (List.cons.inj h).1 (by decide)
      subst opener
      rw [List.append_cancel_right (List.append_cancel_left h)]

end Piece

/-- What stands at the front of a text is one piece only. -/
theorem Stands.unique (h : Stands p rest) (h' : Stands q rest')
    (same : p.written ++ rest = q.written ++ rest') : p = q := by
  have not_starts {c : Char} {rest : List Char} (h : Stands (.character c) rest) :
      ¬Segment.Starts (c :: rest) := by
    cases h
    assumption
  by_cases hp : ∃ c, p = .character c <;> by_cases hq : ∃ c, q = .character c
  · obtain ⟨c, rfl⟩ := hp
    obtain ⟨d, rfl⟩ := hq
    rw [(List.cons.inj same).1]
  · obtain ⟨c, rfl⟩ := hp
    have starts := h'.front.starts (Piece.segment_ne_text (not_exists.1 hq))
    rw [← same] at starts
    exact absurd starts (not_starts h)
  · obtain ⟨d, rfl⟩ := hq
    have starts := h.front.starts (Piece.segment_ne_text (not_exists.1 hp))
    rw [same] at starts
    exact absurd starts (not_starts h')
  · -- Both are what the rule takes.
    have rule := h.front.rule (Piece.segment_ne_text (not_exists.1 hp)) 0
    rw [same, h'.front.rule (Piece.segment_ne_text (not_exists.1 hq)) 0] at rule
    obtain ⟨hsegment, hlength⟩ := Lexeme.token.inj rule
    exact Piece.eq_of_written hsegment.symm (List.append_inj_left same hlength.symm)

theorem Pieces.unique (h : Pieces ps cs) (h' : Pieces qs cs) : ps = qs := by
  induction h generalizing qs with
  | nil =>
    generalize hcs : ([] : List Char) = cs at h'
    cases h' with
    | nil => rfl
    | cons front => exact absurd (List.append_eq_nil_iff.1 hcs.symm).1 front.front.ne_nil
  | @cons p rest ps here _ ih =>
    generalize hcs : p.written ++ rest = cs at h'
    cases h' with
    | nil => exact absurd (List.append_eq_nil_iff.1 hcs).1 here.front.ne_nil
    | @cons q rest' qs here' hs' =>
      obtain rfl := here.unique here' hcs
      obtain rfl := List.append_cancel_left hcs
      rw [ih hs']

/-! ### Segments and pieces -/

/-- The pieces that a segment is made of. -/
inductive Parts : Segment → List Piece → Prop
  | text {w : List Char} (hw : w ≠ []) : Parts (.text (String.ofList w)) (w.map .character)
  | number (ds : List Char) : Parts (.placeholder (Text.digitsValue ds)) [.number ds]
  | block (o : Opener) (source : List Char) :
    Parts (o.segment (String.ofList source)) [.block o source]

theorem Parts.ne_nil (h : Parts a ps) : ps ≠ [] := by
  cases h with
  | text hw => simpa using hw
  | number => exact List.cons_ne_nil _ _
  | block => exact List.cons_ne_nil _ _

theorem Parts.isBlock (h : Parts a ps) : a.block?.isNone = ps.all fun p => !p.isBlock := by
  cases h with
  | text => simp [Segment.block?, Piece.isBlock]
  | number => rfl
  | block o => cases o <;> rfl

theorem all_noBlock (h : List.Forall₂ Parts ss pss) :
    (ss.all fun a => a.block?.isNone) = pss.flatten.all fun p => !p.isBlock := by
  induction h with
  | nil => rfl
  | cons here _ ih => rw [List.all_cons, List.flatten_cons, List.all_append, ih, here.isBlock]

/-- More than one segment makes more than one piece. -/
theorem length_parts {a' : Segment} {ps' : List Piece} (h : Parts a ps) (h' : Parts a' ps')
    (pss : List (List Piece)) : (ps :: ps' :: pss).flatten.length ≠ 1 := by
  have first := List.length_pos_iff.2 h.ne_nil
  have second := List.length_pos_iff.2 h'.ne_nil
  simp only [List.flatten_cons, List.length_append]
  omega

/-- Text in which nothing starts falls into its characters. -/
theorem pieces_text (h : ∀ u v, w = u ++ v → v ≠ [] → ¬Segment.Starts (v ++ rest))
    (hs : Pieces qs rest) : Pieces (w.map .character ++ qs) (w ++ rest) := by
  induction w with
  | nil => exact hs
  | cons c w ih =>
    have here := h [] (c :: w) rfl (List.cons_ne_nil _ _)
    have rest := ih fun u v heq => h (c :: u) v (by rw [heq]; rfl)
    exact .cons (p := .character c) (.character here) rest

/-- A segment falls into pieces, whatever stands behind it. -/
theorem Segment.Front.parts (h : Front a w rest) (hs : Pieces qs rest) :
    ∃ ps, Parts a ps ∧ Pieces (ps ++ qs) (w ++ rest) := by
  cases h with
  | text hw none => exact ⟨_, .text hw, pieces_text none hs⟩
  | @placeholder ds rest hds digits ends short =>
    exact ⟨_, .number ds, .cons (p := .number ds) (.number hds digits ends short) hs⟩
  | @expression c source rest hc closed =>
    have closes := Block.closing_eq_some.1 closed
    rcases hc with rfl | rfl
    · exact ⟨_, .block .question source,
        .cons (p := .block .question source) (.block _ closes) hs⟩
    · exact ⟨_, .block .colon source, .cons (p := .block .colon source) (.block _ closes) hs⟩
  | @bare source rest closed =>
    exact ⟨_, .block .bare source,
      .cons (p := .block .bare source) (.block _ (Block.closing_eq_some.1 closed)) hs⟩

theorem Segment.Cuts.parts (h : Cuts ss cs) :
    ∃ pss, List.Forall₂ Parts ss pss ∧ Pieces pss.flatten cs := by
  induction h with
  | nil => exact ⟨[], .nil, .nil⟩
  | cons front _ ih =>
    obtain ⟨pss, parts, pieces⟩ := ih
    obtain ⟨ps, here, pieces⟩ := front.parts pieces
    exact ⟨ps :: pss, .cons here parts, pieces⟩

theorem Pieces.cuts (h : Pieces ps cs) : Segment.Cuts (ps.map Piece.segment) cs := by
  induction h with
  | nil => exact .nil
  | cons here _ ih => exact .cons here.front ih

theorem Pieces.split {text : String} (h : Pieces ps text.toList) :
    ∃ ss, Segment.split text = .ok ss :=
  ⟨_, Segment.split_eq_ok.2 ⟨h.cuts.complete 0, rfl⟩⟩

theorem Pieces.flatten_written (h : Pieces ps cs) : (ps.map Piece.written).flatten = cs := by
  induction h with
  | nil => rfl
  | cons _ _ ih => rw [List.map_cons, List.flatten_cons, ih]

/-! ### Rendering -/

variable {b : Binding} {v : Value} {text : String}

/-- Without blocks all is kept. -/
theorem shows_iff (h : ∀ p ∈ ps, p.isBlock = false) :
    List.Forall₂ (Shows b) ps outs ↔ outs = ps.map Piece.written := by
  induction ps generalizing outs with
  | nil => exact List.forall₂_nil_left_iff
  | cons p ps ih =>
    rw [List.forall_mem_cons] at h
    have here (out : List Char) : Shows b p out ↔ out = p.written := by
      cases p with
      | character c => exact ⟨fun | .character _ => rfl, fun h => h ▸ .character c⟩
      | number ds => exact ⟨fun | .number _ => rfl, fun h => h ▸ .number ds⟩
      | block => cases h.1
    rw [List.forall₂_cons_left_iff, List.map_cons]
    simp only [here, ih h.2, exists_and_left, exists_eq_left]

/-- What shows pieces of a text is what shows the first ones and what shows the others. -/
theorem shows_append : List.Forall₂ (Shows b) (ps ++ qs) outs ↔
    ∃ front behind, List.Forall₂ (Shows b) ps front ∧ List.Forall₂ (Shows b) qs behind ∧
      outs = front ++ behind := by
  constructor
  · intro h
    exact ⟨_, _, (List.forall₂_take_append _ _ _ h.flip).flip,
      (List.forall₂_drop_append _ _ _ h.flip).flip, (List.take_append_drop ps.length outs).symm⟩
  · rintro ⟨front, behind, hfront, hbehind, rfl⟩
    exact List.rel_append hfront hbehind

/-- A segment of a text with a block in it is rendered by what shows its pieces. -/
theorem Binding.renderPlain_parts (b : Binding) (h : Parts a ps) :
    ∃ r, Run.AmountsTo b.Coherent (b.renderPlain a) r ∧ ∀ s, r = .ok s ↔
      ∃ outs, List.Forall₂ (Shows b) (ps.map Piece.shortened) outs ∧
        s = String.ofList outs.flatten := by
  cases h with
  | @text w _ =>
    refine ⟨_, .pure _, fun s => ?_⟩
    have none : ∀ p ∈ (w.map Piece.character).map Piece.shortened, p.isBlock = false := by
      simp [Piece.shortened, Piece.isBlock]
    have whole : (((w.map Piece.character).map Piece.shortened).map Piece.written).flatten = w := by
      rw [List.map_map, List.map_map, ← List.flatMap_def]
      exact List.flatMap_singleton' w
    simp only [shows_iff none, exists_eq_left, whole, Except.ok.injEq]
    exact eq_comm
  | number ds =>
    refine ⟨_, .pure _, fun s => ?_⟩
    have none : ∀ p ∈ [(Piece.number ds).shortened], p.isBlock = false := by
      simp [Piece.shortened, Piece.isBlock]
    have digits : "?" ++ toString (Text.digitsValue ds)
        = String.ofList ((Piece.number ds).shortened).written := by
      rw [← String.toList_inj, String.toList_ofList, String.toList_append]
      exact congrArg ('?' :: ·) Nat.toList_repr
    simp only [List.map_singleton, shows_iff none, exists_eq_left, List.flatten_singleton, digits,
      Except.ok.injEq]
    exact eq_comm
  | block o source =>
    have value := (b.steady_evaluate (String.ofList source)).amountsTo b.coherent_fresh
    have rendering : b.renderPlain (o.segment (String.ofList source))
        = b.evaluate (String.ofList source) >>= fun v => Run.value (Binding.rendered v) := by
      cases o <;> rfl
    have text {v : Value} {s : String} :
        (Binding.rendered v).mapError Failure.misuse = .ok s ↔ Binding.rendered v = .ok s := by
      cases Binding.rendered v <;> simp [Except.mapError]
    rw [rendering]
    refine ⟨_, value.bind fun v => .lift _, fun s => ?_⟩
    constructor
    · intro hs
      obtain ⟨v, hv, hrendered⟩ := bind_eq_ok.1 hs
      exact ⟨_, .cons (.block hv (text.1 hrendered)) .nil, by simp⟩
    · rintro ⟨outs, shows, rfl⟩
      obtain ⟨out, _, here, hnil, rfl⟩ := List.forall₂_cons_left_iff.1 shows
      obtain rfl := List.forall₂_nil_left_iff.1 hnil
      cases here with
      | block hv hs => exact bind_eq_ok.2 ⟨_, hv, by simpa using text.2 hs⟩

theorem Binding.renderAll_parts (b : Binding) (h : List.Forall₂ Parts ss pss) :
    ∃ r, Run.AmountsTo b.Coherent (renderAll b.renderPlain ss) r ∧ ∀ s, r = .ok s ↔
      ∃ outs, List.Forall₂ (Shows b) (pss.flatten.map Piece.shortened) outs ∧
        s = String.ofList outs.flatten := by
  induction h with
  | nil => exact ⟨_, .pure "", fun s => by simp [eq_comm]⟩
  | @cons a ps ss pss here _ ih =>
    obtain ⟨front, hfront, front_iff⟩ := b.renderPlain_parts here
    obtain ⟨behind, hbehind, behind_iff⟩ := ih
    refine ⟨_, hfront.bind fun x => hbehind.bind fun y => .pure (x ++ y), fun s => ?_⟩
    simp only [bind_eq_ok, front_iff, behind_iff, List.flatten_cons, List.map_append, shows_append,
      Except.ok.injEq]
    constructor
    · rintro ⟨x, ⟨xs, hx, rfl⟩, y, ⟨ys, hy, rfl⟩, rfl⟩
      exact ⟨_, ⟨xs, ys, hx, hy, rfl⟩, by simp [String.ofList_append]⟩
    · rintro ⟨_, ⟨xs, ys, hx, hy, rfl⟩, rfl⟩
      exact ⟨_, ⟨xs, hx, rfl⟩, _, ⟨ys, hy, rfl⟩, by simp [String.ofList_append]⟩

/-- Pieces that are not just a block are rendered one by one. -/
theorem rendering_iff (h : ps.length ≠ 1 ∨ ∀ p ∈ ps, p.isBlock = false) : Rendering b ps v ↔
    ∃ outs, List.Forall₂ (Shows b) ps outs ∧ v = .text (String.ofList outs.flatten) := by
  unfold Rendering
  split
  · simp [Piece.isBlock] at h
  · rfl

theorem Binding.evaluatePlain_pieces (b : Binding) (h : Pieces ps text.toList) :
    ∃ r, Run.AmountsTo b.Coherent (b.evaluatePlain text) r ∧
      ∀ v, r = .ok v ↔ Rendering b (rewritten ps) v := by
  obtain ⟨ss, hss⟩ := h.split
  obtain ⟨pss, parts, pieces⟩ := (Segment.cuts_of_split hss).parts
  obtain rfl := h.unique pieces
  rw [evaluatePlain, hss]
  change ∃ r, Run.AmountsTo b.Coherent (pure ss >>= _) r ∧ _
  rw [pure_bind, all_noBlock parts]
  cases hall : pss.flatten.all fun p => !p.isBlock with
  | true =>
    have none : ∀ p ∈ pss.flatten, p.isBlock = false := fun p hp => by
      simpa using List.all_eq_true.1 hall p hp
    have same : rewritten pss.flatten = pss.flatten := if_neg (by simpa using hall)
    refine ⟨_, .pure _, fun v => ?_⟩
    rw [same, rendering_iff (.inr none)]
    simp only [shows_iff none, exists_eq_left, h.flatten_written, String.ofList_toList,
      Except.ok.injEq]
    exact eq_comm
  | false =>
    have some : rewritten pss.flatten = pss.flatten.map Piece.shortened :=
      if_pos (by simpa using hall)
    rw [some, if_neg Bool.false_ne_true]
    cases parts with
    | nil => cases hall
    | @cons a ps ss pss here parts =>
      cases parts with
      | nil =>
        rw [List.flatten_singleton] at hall ⊢
        cases here with
        | text => simp [Piece.isBlock] at hall
        | number => cases hall
        | block o source =>
          have value := (b.steady_evaluate (String.ofList source)).amountsTo b.coherent_fresh
          refine ⟨_, ?_, fun v => Iff.rfl⟩
          cases o <;> exact value
      | @cons a' ps' ss pss here' parts =>
        obtain ⟨r, hr, hr_iff⟩ := b.renderAll_parts (.cons here (.cons here' parts))
        have more : ((ps :: ps' :: pss).flatten.map Piece.shortened).length ≠ 1 := by
          rw [List.length_map]
          exact length_parts here here' pss
        refine ⟨r >>= fun s => .ok (.text s), ?_, fun v => ?_⟩
        · cases a <;> exact hr.bind fun s => .pure _
        · rw [rendering_iff (.inl more), bind_eq_ok]
          simp only [hr_iff, Except.ok.injEq]
          constructor
          · rintro ⟨_, ⟨outs, shows, rfl⟩, rfl⟩
            exact ⟨outs, shows, rfl⟩
          · rintro ⟨outs, shows, rfl⟩
            exact ⟨_, ⟨outs, shows, rfl⟩, rfl⟩

/-! ### Kept text -/

/-- A text is evaluated if it falls into pieces and all its blocks have values. A block alone then
    gives its value; otherwise the text is kept but for its blocks and, if there are any, its
    numbers. So it is kept but for its blocks if no number in it has fewer digits. -/
theorem plain_text_is_kept (b : Binding) {m : Binding.Memory} (hm : b.Coherent m) (text : String)
    (v : Value) :
    ((b.evaluatePlain text).outcome m = .ok v ↔
      ∃ ps, Pieces ps text.toList ∧ Rendering b (rewritten ps) v) ∧
    ∀ ps, Pieces ps text.toList →
      ((∀ p ∈ ps, p.isBlock = false) ∨ ∀ p ∈ ps, p.shortened = p) →
      ((b.evaluatePlain text).outcome m = .ok v ↔ Rendering b ps v) := by
  have value {ps : List Piece} (h : Pieces ps text.toList) :
      (b.evaluatePlain text).outcome m = .ok v ↔ Rendering b (rewritten ps) v := by
    obtain ⟨r, hr, hr_iff⟩ := b.evaluatePlain_pieces h
    rw [hr.outcome hm, hr_iff]
  refine ⟨⟨fun h => ?_, fun ⟨ps, h, rendering⟩ => (value h).2 rendering⟩, fun ps h same => ?_⟩
  · obtain ⟨ss, hss⟩ : ∃ ss, Segment.split text = .ok ss := by
      cases hsplit : Segment.split text with
      | ok ss => exact ⟨ss, rfl⟩
      | error f =>
        rw [Binding.evaluatePlain, hsplit] at h
        cases h
    obtain ⟨pss, -, pieces⟩ := (Segment.cuts_of_split hss).parts
    exact ⟨_, pieces, (value pieces).1 h⟩
  · have unchanged : rewritten ps = ps := by
      unfold rewritten
      rcases same with none | shortest
      · exact if_neg (by simpa using none)
      · rw [List.map_congr_left shortest, List.map_id', ite_self]
    rw [value h, unchanged]

namespace Acronym

/-- A binding of one text, which is the target as well. -/
def acronym : Binding := ⟨.text "DVA", .text "DVA", [("target", .text "DVA")]⟩

/-- Digits, a dash, and a block with the target. -/
def pieces (digits : List Char) : List Piece :=
  [.number digits, .character '-', .block .bare "#target".toList]

theorem target : (acronym.evaluate "#target").outcome .fresh = .ok (.text "DVA") := by
  with_unfolding_all rfl

theorem pieces_written (ds : List Char) (hds : ds ≠ []) (h : ∀ d ∈ ds, Text.isDigit d = true)
    (short : ds.length ≤ Text.digitLimit) :
    Pieces (pieces ds) ('?' :: (ds ++ "-#\x7b#target\x7d".toList)) := by
  have dash : ∀ d ∈ "-#\x7b#target\x7d".toList.head?, Text.isDigit d = false := by
    rintro d ⟨⟩
    rfl
  have closes : Block.ClosesAt 0 (Block.unquoted 0 "#target\x7d".toList) "#target".toList.length :=
    Block.closing_eq_some.1 rfl
  refine .cons (p := .number ds) (.number hds h dash short) ?_
  refine .cons (p := .character '-') (.character ?_) ?_
  · rintro (_ | hc)
    revert hc
    decide
  · exact .cons (p := .block .bare "#target".toList) (.block _ closes) .nil

/-- Zeros at the front of a number are lost where there is a block. -/
theorem zeros_are_lost :
    (acronym.evaluatePlain "?007-#\x7b#target\x7d").outcome .fresh = .ok (.text "?7-DVA") ∧
      ¬∃ ps, Pieces ps "?007-#\x7b#target\x7d".toList ∧ Rendering acronym ps (.text "?7-DVA") := by
  constructor
  · with_unfolding_all rfl
  · rintro ⟨ps, hps, rendering⟩
    have digits : ∀ d ∈ ['0', '0', '7'], d.isDigit = true := by simp
    have written := pieces_written ['0', '0', '7'] (List.cons_ne_nil _ _)
      (fun d hd => isDigit_ascii (digits d hd)) (by decide)
    obtain rfl := hps.unique written
    obtain ⟨outs, shows, htext⟩ := rendering
    obtain ⟨out, outs, here, -, rfl⟩ := List.forall₂_cons_left_iff.1 shows
    cases here
    have first := String.ofList_injective (Value.text.inj htext)
    cases first

/-- A number without zeros at its front is kept. -/
theorem number_is_kept :
    (acronym.evaluatePlain "?31-#\x7b#target\x7d").outcome .fresh = .ok (.text "?31-DVA") := by
  obtain ⟨nonempty, digits, value, short⟩ := isIndex_toDigits (n := 31) (by decide)
  have shortest : ∀ p ∈ pieces (Nat.toDigits 10 31), p.shortened = p := by
    simp only [pieces, List.forall_mem_cons, Piece.shortened, value]
    exact ⟨trivial, trivial, trivial, List.forall_mem_nil _⟩
  refine ((plain_text_is_kept acronym acronym.coherent_fresh "?31-#\x7b#target\x7d" _).2 _
    (pieces_written _ nonempty digits short) (.inr shortest)).2
    ⟨["?31".toList, ['-'], "DVA".toList], ?_, rfl⟩
  exact .cons (.number _) (.cons (.character _) (.cons (.block target rfl) .nil))

end Acronym

end LinkedDocs
