import LinkedDocs.Proofs.BlockSurroundings
import LinkedDocs.Proofs.TemplateGrammar

/-! Splitting loses nothing.

    A text is split into pieces that make it up: literal text, placeholders, and blocks, each of
    which ends at the first closing brace at which the braces outside its strings balance. All that
    can go wrong is a block that is opened outside the blocks before it and never closed, or a
    placeholder there whose digits are too many to be read. So a string in which nothing is bound is
    put together again just as it was. -/

namespace LinkedDocs

open Scan

/-! ### Where a block ends -/

namespace Template.Block

/-- The characters of a text that stand outside its quoted strings, each in its place. The first
    `pending` characters belong to a string that began before. -/
def unquoted : (pending : Nat) → List Char → List (Option Char)
  | _, [] => []
  | pending + 1, _ :: cs => none :: unquoted pending cs
  | 0, c :: cs =>
    match stringLength? (c :: cs) with
    | some n => none :: unquoted (n - 1) cs
    | none => some c :: unquoted 0 cs

/-- As many braces are closed as opened, with `depth` of them open before. -/
def Balanced (depth : Nat) (cs : List (Option Char)) : Prop :=
  depth + cs.count (some '{') = cs.count (some '}')

/-- At `n` stands the first closing brace at which the braces balance. -/
structure ClosesAt (depth : Nat) (cs : List (Option Char)) (n : Nat) : Prop where
  brace : cs[n]? = some (some '}')
  balanced : Balanced depth (cs.take n)
  first : ∀ m < n, cs[m]? = some (some '}') → ¬Balanced depth (cs.take m)

variable {depth depth' n : Nat} {x : Option Char} {cs : List (Option Char)}

theorem not_closesAt_nil : ¬ClosesAt depth [] n := fun h => nomatch h.brace

/-- With no brace open, the next closing one is the end. -/
theorem closesAt_brace : ClosesAt 0 (some '}' :: cs) n ↔ n = 0 := by
  constructor
  · intro h
    by_contra hn
    exact h.first 0 (Nat.pos_of_ne_zero hn) rfl rfl
  · rintro rfl
    exact ⟨rfl, rfl, fun m hm => absurd hm m.not_lt_zero⟩

/-- A character that is not the end is passed over. -/
theorem closesAt_cons (here : x = some '}' → depth ≠ 0)
    (behind : ∀ cs, Balanced depth (x :: cs) ↔ Balanced depth' cs) :
    ClosesAt depth (x :: cs) n ↔ ∃ m, ClosesAt depth' cs m ∧ m + 1 = n := by
  constructor
  · rintro ⟨brace, balanced, first⟩
    cases n with
    | zero => exact absurd balanced (here (Option.some.inj brace))
    | succ n =>
      refine ⟨n, ⟨brace, (behind _).1 balanced, fun m hm hbrace hbalanced => ?_⟩, rfl⟩
      exact first (m + 1) (Nat.succ_lt_succ hm) hbrace ((behind _).2 hbalanced)
  · rintro ⟨n, ⟨brace, balanced, first⟩, rfl⟩
    refine ⟨brace, (behind _).2 balanced, fun m hm hbrace hbalanced => ?_⟩
    cases m with
    | zero => exact here (Option.some.inj hbrace) hbalanced
    | succ m => exact first m (Nat.lt_of_succ_lt_succ hm) hbrace ((behind _).1 hbalanced)

/-- What is no brace outside a string keeps the balance. -/
theorem closesAt_other (opener : x ≠ some '{') (closer : x ≠ some '}') :
    ClosesAt depth (x :: cs) n ↔ ∃ m, ClosesAt depth cs m ∧ m + 1 = n := by
  refine closesAt_cons (fun h => absurd h closer) fun cs => ?_
  rw [Balanced, Balanced, List.count_cons_of_ne opener, List.count_cons_of_ne closer]

theorem closesAt_opener :
    ClosesAt depth (some '{' :: cs) n ↔ ∃ m, ClosesAt (depth + 1) cs m ∧ m + 1 = n := by
  refine closesAt_cons (fun h => absurd h (by decide)) fun cs => ?_
  rw [Balanced, Balanced, List.count_cons_self, List.count_cons_of_ne (by decide)]
  omega

theorem closesAt_closer :
    ClosesAt (depth + 1) (some '}' :: cs) n ↔ ∃ m, ClosesAt depth cs m ∧ m + 1 = n := by
  refine closesAt_cons (fun _ => depth.succ_ne_zero) fun cs => ?_
  rw [Balanced, Balanced, List.count_cons_self, List.count_cons_of_ne (by decide)]
  omega

theorem unquoted_string {c : Char} {cs : List Char} (h : stringLength? (c :: cs) = some n) :
    unquoted 0 (c :: cs) = none :: unquoted (n - 1) cs := by
  rw [unquoted, h]

theorem unquoted_char {c : Char} {cs : List Char} (h : stringLength? (c :: cs) = none) :
    unquoted 0 (c :: cs) = some c :: unquoted 0 cs := by
  rw [unquoted, h]

/-- The end of a block is the first closing brace at which the braces outside strings balance. -/
theorem closing_eq_some {pending depth n : Nat} {cs : List Char} :
    closing pending depth cs = some n ↔ ClosesAt depth (unquoted pending cs) n := by
  have behind {found : Option Nat} {depth n : Nat} {us : List (Option Char)}
      (ih : ∀ {n}, found = some n ↔ ClosesAt depth us n) :
      found.map (· + 1) = some n ↔ ∃ m, ClosesAt depth us m ∧ m + 1 = n := by
    simp only [Option.map_eq_some_iff, ih]
  fun_induction closing pending depth cs generalizing n with
  | case1 =>
    rw [unquoted]
    exact iff_of_false (Option.some_ne_none n).symm not_closesAt_nil
  | case2 pending depth c cs ih =>
    rw [unquoted, closesAt_other (by decide) (by decide), behind ih]
  | case3 depth c cs m hm ih =>
    rw [unquoted_string hm, closesAt_other (by decide) (by decide), behind ih]
  | case4 depth cs hs ih => rw [unquoted_char hs, closesAt_opener, behind ih]
  | case5 cs hs =>
    rw [unquoted_char hs, closesAt_brace]
    simp [eq_comm]
  | case6 cs depth hs _ ih => rw [unquoted_char hs, closesAt_closer, behind ih]
  | case7 depth c cs hs opener closer ih =>
    rw [unquoted_char hs, closesAt_other (by simpa using opener) (by simpa using closer), behind ih]

end Template.Block

theorem Template.Token.Quotes.parse {w : List Char} {s : String} (h : Token.Quotes w s) :
    Template.parse (String.ofList w) = .ok (.string s) := by
  have token := h.rule (String.ofList w) [] 0
  rw [List.append_nil] at token
  refine parse_leaf ?_ ?_ (.string s)
  · rw [String.toList_ofList]
    cases h
    exact List.cons_ne_nil _ _
  · rw [String.toList_ofList]
    exact token

namespace Segment

open Template

variable {a : Segment} {c : Char} {cs w rest : List Char} {k n p q : Nat} {ss : List Segment}
  {source : String}

/-! ### What stops a scan -/

/-- A block is opened here and never closed. -/
inductive OpensForever : List Char → Prop
  | intro (o : Opener) {body : List Char} (h : ∀ n, ¬Block.ClosesAt 0 (Block.unquoted 0 body) n) :
    OpensForever (o.text.toList ++ body)

/-- Behind the segments of the first `k` characters stands what `here` says. -/
inductive StandsAt (here : List Char → Prop) : Nat → List Char → Prop
  | here {cs : List Char} (h : here cs) : StandsAt here 0 cs
  | behind {k : Nat} {a : Segment} {w rest : List Char} (h : Front a w rest)
    (hs : StandsAt here k rest) : StandsAt here (w.length + k) (w ++ rest)

/-- At `k` a block is opened, outside the blocks before it, and never closed. -/
abbrev LeavesOpen : Nat → List Char → Prop := StandsAt OpensForever

/-- At `k` a placeholder with too many digits stands, outside the blocks before it. -/
abbrev HoldsOverlong : Nat → List Char → Prop := StandsAt StartsOverlong

theorem closing_eq_none {body : List Char} : Block.closing 0 0 body = none ↔
    ∀ n, ¬Block.ClosesAt 0 (Block.unquoted 0 body) n := by
  rw [Option.eq_none_iff_forall_ne_some]
  exact forall_congr' fun n => not_congr Block.closing_eq_some

theorem body?_eq_none (opener : List Char) {body : List Char} :
    Block.body? opener.length (opener ++ body) = none ↔ Block.closing 0 0 body = none := by
  rw [Block.body?, List.drop_left]
  exact Option.map_eq_none_iff

/-- Where the rule finds a block that is never closed, an opener stands. -/
theorem opensForever_of_rule (h : rule p (c :: cs) = .openBlock) : OpensForever (c :: cs) := by
  rw [rule] at h
  split at h
  · next hmark =>
    obtain ⟨rfl, c, body, hc, heq⟩ := markedOpener?_eq_some hmark
    rw [heq] at h ⊢
    split at h
    · cases h
    · next hbody =>
      have never := closing_eq_none.1 ((body?_eq_none [c, '#', '{']).1 hbody)
      rcases hc with rfl | rfl
      · exact .intro .question never
      · exact .intro .colon never
  · next hbare =>
    obtain ⟨rfl, body, heq⟩ := bareOpener?_eq_some hbare
    rw [heq] at h ⊢
    split at h
    · cases h
    · next hbody => exact .intro .bare (closing_eq_none.1 ((body?_eq_none ['#', '{']).1 hbody))
  · split at h
    · exact absurd h Lexeme.of_ne_openBlock
    · split at h <;> cases h

/-- What the rule fails with, it fails with at a placeholder with too many digits. -/
theorem overlong_of_rule {f : Failure} (h : rule p (c :: cs) = .failure f) :
    f = .misuse .content ∧ StartsOverlong (c :: cs) := by
  obtain ⟨a, n, found⟩ | found | ⟨found, starts⟩ := rule_cases p c cs
  · cases h.symm.trans found
  · cases h.symm.trans found
  · exact ⟨Lexeme.failure.inj (h.symm.trans found), starts⟩

/-! ### Where the scan ends -/

theorem rule_closed (o : Opener) {src : List Char}
    (closed : Block.closing 0 0 (src ++ '}' :: rest) = some src.length) (p : Nat) :
    rule p (o.text.toList ++ (src ++ ['}']) ++ rest)
      = .token (o.segment (String.ofList src)) (o.text.toList ++ (src ++ ['}'])).length := by
  have word : (o.block (String.ofList src)).toList = o.text.toList ++ (src ++ ['}']) := by
    simp [Opener.block]
  rw [← word]
  refine o.segment_rule ?_ p
  rw [String.toList_ofList]
  exact closed

theorem rule_marked_digits {ds : List Char} (some : ds ≠ [])
    (digits : ∀ d ∈ ds, Text.isDigit d = true)
    (ends : ∀ d ∈ rest.head?, Text.isDigit d = false) (p : Nat) : rule p ('?' :: (ds ++ rest))
      = .of true ds (.placeholder (Text.digitsValue ds)) (ds.length + 1) := by
  rw [rule, Token.markedOpener?_digits some digits,
    Token.placeholderLength?_append some digits ends]
  simp [Block.bareOpener?]

theorem rule_placeholder {ds : List Char} (h : IsIndex ds n)
    (ends : ∀ d ∈ rest.head?, Text.isDigit d = false) (p : Nat) :
    rule p ('?' :: ds ++ rest) = .token (.placeholder n) ('?' :: ds).length := by
  rw [List.cons_append, rule_marked_digits h.ne_nil h.digits ends,
    Lexeme.of_eq_self fun _ => h.isReadable, h.value]
  rfl

theorem StartsOverlong.rule (h : StartsOverlong cs) (p : Nat) :
    rule p cs = .failure (.misuse .content) := by
  obtain @⟨ds, rest, digits, ends, long⟩ := h
  rw [rule_marked_digits (ne_nil_of_long long) digits ends,
    Lexeme.of_overlong (isReadable_long digits long)]

/-- Unless it is text, what stands in front is just what the rule takes. -/
theorem Front.rule (h : Front a w rest) (bound : ∀ t, a ≠ .text t) (p : Nat) :
    rule p (w ++ rest) = .token a w.length := by
  cases h with
  | text => exact absurd rfl (bound _)
  | placeholder hds digits ends short =>
    exact rule_placeholder ⟨hds, digits, rfl, short⟩ ends p
  | expression hc closed =>
    rcases hc with rfl | rfl
    · exact rule_closed .question closed p
    · exact rule_closed .colon closed p
  | bare closed => exact rule_closed .bare closed p

/-- A run of ordinary characters is text, whether or not it was taken already. -/
theorem ending_run (p : Nat) (cs : List Char) :
    (scanFrom Segment.rule (runLength (fun c => !isSpecial c) cs) p cs).ending
      = (scanFrom Segment.rule 0 p cs).ending := by
  cases cs with
  | nil => rfl
  | cons c cs =>
    cases special : isSpecial c with
    | true =>
      have none : runLength (fun c => !isSpecial c) (c :: cs) = 0 := by simp [runLength, special]
      rw [none]
    | false =>
      have next : runLength (fun c => !isSpecial c) (c :: cs)
          = runLength (fun c => !isSpecial c) cs + 1 := by simp [runLength, special]
      rw [next, scanFrom, scanFrom, rule_text (not_starts_of_ordinary special), special]
      rfl

/-- Past a character of a text the scan ends as it would have ended from there on. -/
theorem ending_char (h : ¬Starts (c :: cs)) (p : Nat) :
    (scanFrom Segment.rule 0 p (c :: cs)).ending = (scanFrom Segment.rule 0 (p + 1) cs).ending := by
  rw [scanFrom, rule_text h]
  cases isSpecial c with
  | true => rfl
  | false => exact ending_run (p + 1) cs

/-- Past a segment the scan ends as it would have ended from there on. -/
theorem Front.ending (h : Front a w rest) (p : Nat) :
    (scanFrom Segment.rule 0 p (w ++ rest)).ending
      = (scanFrom Segment.rule 0 (p + w.length) rest).ending := by
  by_cases text : ∃ t, a = .text t
  · obtain ⟨t, rfl⟩ := text
    cases h with
    | text hw h =>
      clear hw
      induction w generalizing p with
      | nil => rfl
      | cons c w ih =>
        have here := h [] (c :: w) rfl (List.cons_ne_nil _ _)
        have behind := ih (p + 1) fun u v heq => h (c :: u) v (by rw [heq]; rfl)
        rw [List.cons_append] at here ⊢
        rw [ending_char here, behind, List.length_cons, Nat.add_assoc, Nat.add_comm 1]
  · rw [scanFrom_word h.ne_nil (h.rule (fun t ht => text ⟨t, ht⟩) p)]
    rfl

theorem OpensForever.ending (h : OpensForever cs) (p : Nat) :
    (scanFrom Segment.rule 0 p cs).ending = .openBlock p := by
  obtain @⟨o, body, h⟩ := h
  have opens := o.rule_text body p
  rw [(body?_eq_none o.text.toList).2 (closing_eq_none.2 h)] at opens
  obtain ⟨c, cs, heq⟩ := List.exists_cons_of_ne_nil (l := o.text.toList) (by cases o <;> decide)
  rw [heq, List.cons_append] at opens ⊢
  rw [scanFrom, opens]

theorem StartsOverlong.ending (h : StartsOverlong cs) (p : Nat) :
    (scanFrom Segment.rule 0 p cs).ending = .failure (.misuse .content) := by
  have some : cs ≠ [] := by
    cases h
    exact List.cons_ne_nil _ _
  rw [scanFrom_failure some (h.rule p)]

/-- What stands behind segments ends a scan as it does at the front of a text. -/
theorem StandsAt.ending {here : List Char → Prop} {e : Nat → ScanEnd}
    (stop : ∀ cs p, here cs → (scanFrom Segment.rule 0 p cs).ending = e p)
    (h : StandsAt here k cs) (p : Nat) : (scanFrom Segment.rule 0 p cs).ending = e (p + k) := by
  induction h generalizing p with
  | here h => exact stop _ p h
  | behind front _ ih => rw [front.ending, ih, Nat.add_assoc]

/-- Where a scan stops, it comes behind segments to what stops it. -/
theorem standsAt_of_ending (place : Nat → Prop) (here : List Char → Prop) {e : ScanEnd}
    (he : e ≠ .complete)
    (opens : ∀ p c cs, rule p (c :: cs) = .openBlock → e = .openBlock p →
      place p ∧ here (c :: cs))
    (fails : ∀ p c cs f, rule p (c :: cs) = .failure f → e = .failure f →
      place p ∧ here (c :: cs))
    (h : (scanFrom Segment.rule 0 0 cs).ending = e) : ∃ k, place k ∧ StandsAt here k cs := by
  have behind : ∃ k, place (0 + k) ∧ StandsAt here k cs := by
    refine stop_induction (P := fun p cs => ∃ k, place (p + k) ∧ StandsAt here k cs)
      he ?_ ?_ ?_ ?_ h
    · intro p c cs hrule heq
      obtain ⟨hp, hcs⟩ := opens p c cs hrule heq
      exact ⟨0, hp, .here hcs⟩
    · intro p c cs f hrule heq
      obtain ⟨hp, hcs⟩ := fails p c cs f hrule heq
      exact ⟨0, hp, .here hcs⟩
    · exact fun p c cs hskip _ => absurd hskip (rule_ne_skip p c cs)
    · rintro p c cs a n hrule ⟨k, hk, ih⟩
      obtain ⟨w, heq, rfl, front⟩ := exists_front hrule
      have taken := List.length_pos_iff.2 front.ne_nil
      have further : p + 1 + (w.length - 1) + k = p + (w.length + k) := by omega
      rw [heq]
      exact ⟨_, further ▸ hk, .behind front ih⟩
  obtain ⟨k, hk, stands⟩ := behind
  rw [Nat.zero_add] at hk
  exact ⟨k, hk, stands⟩

/-- A scan that stops at an open block stops where it is opened. -/
theorem leavesOpen_of_ending (h : (scanFrom Segment.rule 0 0 cs).ending = .openBlock q) :
    LeavesOpen q cs := by
  have stands := standsAt_of_ending (· = q) OpensForever (by simp)
    (fun p c cs hrule heq => ⟨(ScanEnd.openBlock.inj heq).symm, opensForever_of_rule hrule⟩)
    (fun p c cs f hrule heq => by cases heq) h
  obtain ⟨k, rfl, hk⟩ := stands
  exact hk

/-- A scan that fails fails at a placeholder with too many digits. -/
theorem holdsOverlong_of_ending {f : Failure}
    (h : (scanFrom Segment.rule 0 0 cs).ending = .failure f) :
    f = .misuse .content ∧ ∃ k, HoldsOverlong k cs := by
  obtain ⟨p, u, -, hrule⟩ := failure_of_scanFrom h
  have content : f = .misuse .content := by
    cases u with
    | nil => cases hrule
    | cons c u => exact (overlong_of_rule hrule).1
  obtain ⟨k, -, stands⟩ := standsAt_of_ending (fun _ => True) StartsOverlong (by simp)
    (fun p c cs hrule heq => by cases heq)
    (fun p c cs f hrule heq => ⟨trivial, (overlong_of_rule hrule).2⟩) h
  exact ⟨content, k, stands⟩

/-- A text cannot be cut just if a block in it is never closed, and what is reported is where that
    block opens, or if a placeholder in it has too many digits to be read. -/
theorem split_eq_error {f : Failure} : split source = .error f ↔
    (∃ k, LeavesOpen k source.toList ∧ f = .expression (.unterminatedBlock k source)) ∨
      (∃ k, HoldsOverlong k source.toList) ∧ f = .misuse .content := by
  constructor
  · intro h
    rw [split, result] at h
    cases hending : (scanFrom Segment.rule 0 0 source.toList).ending with
    | complete => rw [hending] at h; cases h
    | failure f =>
      rw [hending] at h
      cases h
      exact .inr (holdsOverlong_of_ending hending).symm
    | openBlock k =>
      rw [hending] at h
      cases h
      exact .inl ⟨k, leavesOpen_of_ending hending, rfl⟩
  · rintro (⟨k, h, rfl⟩ | ⟨⟨k, h⟩, rfl⟩)
    · rw [split, result, StandsAt.ending (fun cs p h => h.ending p) h, Nat.zero_add]
      rfl
    · have ending := StandsAt.ending (e := fun _ => .failure (.misuse .content))
        (fun cs p h => h.ending p) h 0
      rw [split, result, ending]
      rfl

/-! ### Nothing is lost -/

/-- A text that is not cut leaves a block open, or has a placeholder with too many digits. One that
    is cut is made of its segments, in which a block ends where the braces outside strings balance.
    Where only blocks without a mark are among them, a quoted string is just the text it stands
    for. -/
theorem split_loses_nothing (source : String) :
    (∀ f, split source = .error f ↔
      (∃ k, LeavesOpen k source.toList ∧ f = .expression (.unterminatedBlock k source)) ∨
        (∃ k, HoldsOverlong k source.toList) ∧ f = .misuse .content) ∧
    (∀ ss, split source = .ok ss → Cuts ss source.toList) ∧
    (∀ cs n, Block.closing 0 0 cs = some n ↔ Block.ClosesAt 0 (Block.unquoted 0 cs) n) ∧
    ∀ ss, split source = .ok ss → (∀ a ∈ ss, a.isVerbatim = true) →
      ∀ (b : Binding) (m : Binding.Memory), (b.bind (.string source)).exec m = (.ok (.text source), m) ∧
        ∀ w, Token.Quotes w source →
          (b.decodeValue (String.ofList w)).exec m = (.ok (.text source), m) := by
  refine ⟨fun f => split_eq_error, fun ss => cuts_of_split, fun cs n => Block.closing_eq_some, ?_⟩
  intro ss hss verbatim b m
  have bound := b.bindString_verbatim hss verbatim m
  refine ⟨bound, fun w quotes => ?_⟩
  rw [Binding.decodeValue, quotes.parse, Run.exec_bind, Run.exec_lift]
  exact bound

/-- A placeholder with too many digits is not cut, though no block is left open. -/
theorem overlong_placeholder_is_not_cut : ¬∀ source, (∃ ss, split source = .ok ss) ∨
    ∃ k, LeavesOpen k source.toList := by
  intro h
  have starts : StartsOverlong ('?' :: (overlong ++ [])) :=
    .intro (fun d hd => isDigit_ascii (overlong_isNumeral.digits d hd)) nofun overlong_length
  have ending := starts.ending 0
  rcases h (String.ofList ('?' :: (overlong ++ []))) with ⟨ss, hss⟩ | ⟨k, opens⟩
  · rw [split, result, String.toList_ofList, ending] at hss
    cases hss
  · rw [String.toList_ofList] at opens
    have opened := StandsAt.ending (fun cs p h => h.ending p) opens 0
    cases ending.symm.trans opened

/-- Openers that overlap, a brace in a string, a quote that is never closed, and digits of another
    script. -/
theorem split_loses_nothing_sample :
    Cuts [.text "it's ", .text "?", .text ":", .expression "'\x7d' \x7b\x7d", .bare "'",
      .placeholder 31, .text "#"] "it's ?::#\x7b'\x7d' \x7b\x7d\x7d#\x7b'\x7d?٣1#".toList ∧
    LeavesOpen 4 "#\x7ba\x7d?#\x7b'\x7d'".toList ∧
    ∀ (b : Binding) (m : Binding.Memory),
      (b.decodeValue (String.ofList "\"it's\\u003a #\x7bx\x7d\"".toList)).exec m
        = (.ok (.text "it's: #\x7bx\x7d"), m) := by
  refine ⟨(split_loses_nothing _).2.1 _ rfl, ?_, fun b m => ?_⟩
  · obtain ⟨k, opens, heq⟩ | ⟨-, heq⟩ := ((split_loses_nothing "#\x7ba\x7d?#\x7b'\x7d'").1 _).1 rfl
    · cases heq
      exact opens
    · cases heq
  · have quotes : Token.Quotes "\"it's\\u003a #\x7bx\x7d\"".toList "it's: #\x7bx\x7d" :=
      .intro (w := "it's\\u003a #\x7bx\x7d".toList) (.inr rfl) (by decide +kernel)
        (by decide +kernel)
    have split : Segment.split "it's: #\x7bx\x7d"
        = .ok [.text "it's", .text ":", .text " ", .bare "x"] := by
      rfl
    exact (((split_loses_nothing _).2.2.2 _ split (by simp [isVerbatim])) b m).2 _ quotes

end Segment

end LinkedDocs
