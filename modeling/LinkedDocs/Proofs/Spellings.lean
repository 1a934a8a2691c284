import LinkedDocs.Proofs.ExpressionPrinting
import LinkedDocs.Proofs.LosslessSplit

/-! The spellings of a bound value.

    A parameter may be written as a placeholder or as a block around its index in brackets, a block
    with either mark, and each of these may stand in quotes with whatever escapes. All spellings of
    one value are read as single tokens, and all of them are bound to that value with its type. So a
    value of a template may be spelled in any of these ways: the template binds to the same value
    and fails with the same error. An index with too many digits is read in no spelling, but in
    quotes only once its string is bound, behind what else may fail. -/

namespace LinkedDocs.Template

open Scan

/-! ### What is spelled -/

/-- What a value is bound to. -/
inductive Mention where
  | parameter (n : Nat)
  | block (source : String)
  deriving DecidableEq, Repr

namespace Mention

def value (b : Binding) : Mention → Run Binding.Memory Value
  | .parameter n => Run.lift (b.parameter n)
  | .block source => b.evaluate source

/-- The value as it stands in a filter document. It is not turned into text. -/
def bound (b : Binding) (x : Mention) : Run Binding.Memory Value := do
  let v ← x.value b
  pure v.stored

def token : Mention → Token
  | .parameter n => .placeholder n
  | .block source => .expression source

def segment : Mention → Segment
  | .parameter n => .placeholder n
  | .block source => .expression source

def template : Mention → Template
  | .parameter n => .placeholder n
  | .block source => .expression source

end Mention

/-- A spelling without quotes. -/
inductive Unquoted : Mention → List Char → Prop
  | placeholder {ds : List Char} {n : Nat} (h : IsIndex ds n) : Unquoted (.parameter n) ('?' :: ds)
  | parameter {o : Opener} (hmark : o.isMarked = true) {ds : List Char} {n : Nat} (h : IsIndex ds n) :
    Unquoted (.parameter n) (o.block (String.ofList ('[' :: ds ++ [']']))).toList
  | block {o : Opener} (hmark : o.isMarked = true) {e : String} {ts : List (Placed Expr.Token)}
    (h : Expr.Token.tokens e = .ok ts) : Unquoted (.block e) (o.block e).toList

/-- A spelling, perhaps in quotes. -/
inductive Spelling : Mention → List Char → Prop
  | unquoted {x : Mention} {w : List Char} (h : Unquoted x w) : Spelling x w
  | quoted {x : Mention} {w : List Char} {content : String} (h : Unquoted x content.toList)
    (hw : Token.Quotes w content) : Spelling x w

/-! ### How a spelling is read -/

variable {x y : Mention} {w rest : List Char} {n p : Nat} {a : Token} {source : String}

theorem Mention.leaf (y : Mention) : WritesLeaf y.template y.token := by
  cases y with
  | parameter n => exact .placeholder n
  | block e => exact .expression e

theorem Mention.bind_template (b : Binding) (y : Mention) : b.bind y.template = y.bound b := by
  cases y <;> rfl

/-- A quoted string that is one segment is bound as that segment is, with its type. -/
theorem Mention.bind_string {content : String} (h : Segment.split content = .ok [y.segment])
    (b : Binding) : b.bind (.string content) = y.bound b := by
  have segments : (Run.lift (Segment.split content) : Run Binding.Memory (List Segment))
      = pure [y.segment] := by rw [h]; rfl
  rw [Binding.bind, Binding.bindString, segments, pure_bind]
  cases y <;> rfl

/-- The index of a parameter in brackets is the expression for it. -/
theorem parse_index {ds : List Char} (h : IsIndex ds n) :
    Expr.parse (String.ofList ('[' :: ds ++ [']'])) = .ok (.parameter n) := by
  have index {source : String} : Expr.Scanned source [ds] [.integer n] :=
    .one h.ne_nil fun _ position ends => Expr.Token.rule_index h ends.1 ends.2 position
  have words {source : String} : Expr.Scanned source [['['], ds, [']']]
      [.openBracket, .integer n, .closeBracket] :=
    Expr.Scanned.mark rfl (Expr.Scanned.append_mark index rfl (by decide) .nil)
  refine Expr.parse_scanned words (.term (.parameter n)) ?_
  rw [String.toList_ofList]
  exact .word ['['] (.word ds (.word [']'] .nil))

/-- A word is one token wherever it stands, and no other one. A placeholder is taken as far as its
    digits go; a hash would be taken together with a colon in front of it. -/
structure IsWord (w : List Char) (a : Token) : Prop where
  ne_nil : w ≠ []
  head : w.head? ≠ some '#'
  token : ∀ source p rest, (∀ d ∈ rest.head?, Text.isDigit d = false) →
    Token.rule source p (w ++ rest) = .token a w.length
  unique : ∀ source p rest a', Token.rule source p (w ++ rest) = .token a' w.length → a' = a

/-- A word is one token, and as a string one segment, of a mention that has the value of `x`. -/
structure ReadsAs (y x : Mention) (w : List Char) : Prop extends IsWord w y.token where
  value : ∀ b, y.value b = x.value b
  segment : Segment.split (String.ofList w) = .ok [y.segment]

/-- A word that is taken whatever comes next. -/
theorem isWord_closed (hw : w ≠ []) (head : w.head? ≠ some '#')
    (token : ∀ source p rest, Token.rule source p (w ++ rest) = .token a w.length) : IsWord w a where
  ne_nil := hw
  head := head
  token source p rest _ := token source p rest
  unique source p rest _ taken := (Lexeme.token.inj (taken.symm.trans (token source p rest))).1

theorem readsAs_placeholder {ds : List Char} (h : IsIndex ds n) :
    ReadsAs (.parameter n) (.parameter n) ('?' :: ds) where
  value _ := rfl
  ne_nil := List.cons_ne_nil _ _
  head := by simp
  token _ p rest ends := Token.rule_placeholder h ends p
  unique source p rest a taken := by
    have digits : placeholderLength? ('?' :: (ds ++ rest)) ≠ none := by
      obtain ⟨d, ds, rfl, digit, -⟩ := h.exists_cons
      simp [placeholderLength?, runLength, digit]
    obtain ⟨m, hm⟩ := Option.ne_none_iff_exists'.1 digits
    obtain ⟨ds', rest', heq, rfl, hds, hdigits, ends⟩ := Segment.placeholderLength?_eq_some hm
    have found : Token.rule source p ('?' :: (ds' ++ rest')) = _ :=
      Token.rule_marked_digits hds hdigits ends p
    rw [← heq] at found
    obtain ⟨rfl, length, -⟩ := Lexeme.of_eq_token (found.symm.trans taken)
    obtain ⟨rfl, -⟩ := List.append_inj (List.cons.inj heq).2 (Nat.succ.inj length.symm)
    rw [h.value]
    rfl
  segment := by
    refine Segment.split_word ?_ ?_
    · simp
    · have ends : ∀ d ∈ ([] : List Char).head?, Text.isDigit d = false := by simp
      have rule := Segment.rule_placeholder h ends 0
      rw [List.append_nil] at rule
      rw [String.toList_ofList]
      exact rule

theorem readsAs_block {o : Opener} (hmark : o.isMarked = true) {e : String}
    {ts : List (Placed Expr.Token)} (h : Expr.Token.tokens e = .ok ts)
    (value : ∀ b : Binding, b.evaluate e = x.value b) :
    ReadsAs (.block e) x (o.block e).toList where
  toIsWord := by
    refine isWord_closed (o.block_ne_nil e) ?_ fun source p rest =>
      Opener.token_rule hmark (closed_of_tokens h rest) source p
    rw [← List.append_nil (o.block e).toList, o.toList_block]
    cases o with
    | bare => cases hmark
    | question | colon => simp [Opener.text]
  value := value
  segment := by
    have rule := Opener.segment_rule (o := o) (closed_of_tokens h []) 0
    rw [List.append_nil, Opener.segment, if_pos hmark] at rule
    rw [String.ofList_toList]
    exact Segment.split_word (o.block_ne_nil e) rule

theorem Unquoted.readsAs (h : Unquoted x w) : ∃ y, ReadsAs y x w := by
  cases h with
  | placeholder h => exact ⟨_, readsAs_placeholder h⟩
  | parameter hmark h =>
    obtain ⟨ts, hts, -⟩ := Expr.parse_eq_ok.1 (parse_index h)
    refine ⟨_, readsAs_block hmark hts fun b => ?_⟩
    rw [Binding.evaluate, parse_index h]
    rfl
  | block hmark h => exact ⟨_, readsAs_block hmark h fun _ => rfl⟩

theorem isWord_quoted {content : String} (h : Token.Quotes w content) :
    IsWord w (.string content) := by
  refine isWord_closed ?_ ?_ fun source p rest => h.rule source rest p
  · obtain ⟨hq, -, -⟩ := h
    exact List.cons_ne_nil _ _
  · obtain ⟨hq, -, -⟩ := h
    rcases hq with rfl | rfl <;> simp

/-- A spelling is one token, and the value that this token is read as is bound to what is
    spelled. -/
theorem Spelling.exists_leaf (h : Spelling x w) : ∃ a t, WritesLeaf t a ∧
    (∀ b : Binding, b.bind t = x.bound b) ∧ IsWord w a := by
  cases h with
  | unquoted h =>
    obtain ⟨y, hy⟩ := h.readsAs
    refine ⟨y.token, y.template, y.leaf, fun b => ?_, hy.toIsWord⟩
    rw [y.bind_template, Mention.bound, hy.value, Mention.bound]
  | @quoted content h hw =>
    obtain ⟨y, hy⟩ := h.readsAs
    have segment := hy.segment
    rw [String.ofList_toList] at segment
    refine ⟨.string content, .string content, .string content, fun b => ?_, isWord_quoted hw⟩
    rw [Mention.bind_string segment, Mention.bound, hy.value, Mention.bound]

theorem IsWord.parse {t : Template} (h : IsWord w a) (leaf : WritesLeaf t a) :
    Template.parse (String.ofList w) = .ok t := by
  have token := h.token (String.ofList w) 0 [] (by simp)
  rw [List.append_nil] at token
  refine parse_leaf ?_ ?_ leaf <;> rw [String.toList_ofList]
  · exact h.ne_nil
  · exact token

theorem decodeValue_parsed {t : Template} (h : parse source = .ok t) (b : Binding) :
    b.decodeValue source = b.bind t := by
  rw [Binding.decodeValue, h]
  rfl

/-- Alone a spelling binds to the value, which keeps its type. -/
theorem Spelling.decodeValue (h : Spelling x w) (b : Binding) :
    b.decodeValue (String.ofList w) = x.bound b := by
  obtain ⟨a, t, leaf, bound, word⟩ := h.exists_leaf
  rw [decodeValue_parsed (word.parse leaf), bound]

/-! ### Indexes that are too long -/

/-- An index with too many digits, without quotes. -/
inductive OverlongIndex : List Char → Prop
  | placeholder {ds : List Char} (digits : ∀ d ∈ ds, Text.isDigit d = true)
    (long : Text.digitLimit < ds.length) : OverlongIndex ('?' :: ds)
  | parameter {o : Opener} (hmark : o.isMarked = true) {ds : List Char}
    (digits : ∀ d ∈ ds, Text.isDigit d = true) (long : Text.digitLimit < ds.length) :
    OverlongIndex (o.block (String.ofList ('[' :: (ds ++ [']'])))).toList

/-- An index with too many digits, perhaps in quotes. -/
inductive OverlongSpelling : List Char → Prop
  | unquoted {w : List Char} (h : OverlongIndex w) : OverlongSpelling w
  | quoted {w : List Char} {content : String} (h : OverlongIndex content.toList)
    (hw : Token.Quotes w content) : OverlongSpelling w

/-- The block around an index is closed, however long the index is. -/
theorem closed_digits {ds : List Char} (digits : ∀ d ∈ ds, Text.isDigit d = true)
    (rest : List Char) :
    Block.closing 0 0 ((String.ofList ('[' :: (ds ++ [']']))).toList ++ '}' :: rest)
      = some (String.ofList ('[' :: (ds ++ [']']))).toList.length := by
  have ordinary : ∀ c ∈ '[' :: (ds ++ [']']), Block.IsOrdinary c := by
    intro c hc
    rw [List.mem_cons, List.mem_append, List.mem_singleton] at hc
    rcases hc with rfl | hc | rfl
    · decide
    · exact Expr.Token.isOrdinary_of_isNumeric (.inr (.inr (digits c hc)))
    · decide
  rw [String.toList_ofList, Block.closing_ordinary ordinary,
    Block.closing_cons (stringLength?_eq_none (by decide) (by decide))]
  simp

section

variable {ds : List Char} (digits : ∀ d ∈ ds, Text.isDigit d = true)
  (long : Text.digitLimit < ds.length)
include digits long

theorem evaluate_overlong (b : Binding) :
    b.evaluate (String.ofList ('[' :: (ds ++ [']']))) = Run.lift (.error (.misuse .content)) := by
  have some := ne_nil_of_long long
  generalize hsource : String.ofList ('[' :: (ds ++ [']'])) = source
  have text : source.toList = ['['] ++ (ds ++ [']']) := by
    rw [← hsource, String.toList_ofList]
    rfl
  have index : Expr.Token.rule source 1 (ds ++ [']']) = .failure (.misuse .content) := by
    have ends : Expr.Ends [']'] := ⟨by rintro _ ⟨⟩; exact .inr (by decide), rfl⟩
    rw [Expr.Token.rule_digits some digits ends.1 ends.2,
      Lexeme.of_overlong (isReadable_long digits long)]
  have scanned : Expr.Token.scan source = ⟨[⟨.openBracket, 0⟩], .failure (.misuse .content)⟩ := by
    rw [Expr.Token.scan, text, scanFrom_word (List.cons_ne_nil _ _) (Expr.Token.rule_mark rfl _ 0)]
    exact congrArg (cons _) (scanFrom_failure (List.append_ne_nil_of_left_ne_nil some _) index)
  have parsed : Expr.parse source = .error (.misuse .content) := by
    rw [Expr.parse, scanned]
    exact Reader.read_of_failure _ rfl rfl
  rw [Binding.evaluate, parsed]
  rfl

theorem split_overlong :
    Segment.split (String.ofList ('?' :: ds)) = .error (.misuse .content) := by
  have starts : Segment.StartsOverlong ('?' :: (ds ++ [])) := .intro digits nofun long
  rw [List.append_nil] at starts
  rw [Segment.split, String.toList_ofList, result, starts.ending 0]
  rfl

end

theorem OverlongIndex.bindString {content : String} (h : OverlongIndex content.toList)
    (b : Binding) : b.bindString content = Run.lift (.error (.misuse .content)) := by
  generalize hw : content.toList = w at h
  obtain rfl : content = String.ofList w := by rw [← hw, String.ofList_toList]
  cases h with
  | placeholder digits long =>
    rw [Binding.bindString, split_overlong digits long]
    rfl
  | @parameter o hmark ds digits long =>
    have rule := Opener.segment_rule (o := o) (closed_digits digits []) 0
    rw [List.append_nil, Opener.segment, if_pos hmark] at rule
    rw [String.ofList_toList, Binding.bindString, Segment.split_word (o.block_ne_nil _) rule]
    change (b.evaluate _ >>= _) = _
    rw [evaluate_overlong digits long]
    rfl

/-- An index that is too long has a value in no spelling. -/
theorem OverlongSpelling.decodeValue (h : OverlongSpelling w) (b : Binding) :
    b.decodeValue (String.ofList w) = Run.lift (.error (.misuse .content)) := by
  cases h with
  | unquoted h =>
    cases h with
    | @placeholder ds digits long =>
      have rule : Token.rule (String.ofList ('?' :: ds)) 0 ('?' :: (ds ++ [])) = _ :=
        Token.rule_marked_digits (ne_nil_of_long long) digits (by simp) 0
      rw [List.append_nil, Lexeme.of_overlong (isReadable_long digits long)] at rule
      rw [Binding.decodeValue, parse, Token.scan, String.toList_ofList,
        scanFrom_failure (List.cons_ne_nil _ _) rule]
      rfl
    | @parameter o hmark ds digits long =>
      have rule := Opener.token_rule hmark (closed_digits digits [])
        (o.block (String.ofList ('[' :: (ds ++ [']'])))) 0
      rw [List.append_nil] at rule
      rw [String.ofList_toList, decodeValue_parsed (parse_leaf (o.block_ne_nil _) rule
        (.expression _)), Binding.bind, evaluate_overlong digits long]
      rfl
  | quoted h hw =>
    rw [decodeValue_parsed hw.parse, Binding.bind, h.bindString]

/-! ### Words in a text -/

section

variable {u v : List Char} {ts us : List (Placed Token)}

/-- Scanning goes on with the rest of a text. -/
theorem result_foldr_cons (s : Scan Token) :
    (ts.foldr cons s).result source = (s.result source).map (ts ++ ·) := by
  induction ts with
  | nil =>
    rw [List.foldr_nil]
    cases s.result source <;> rfl
  | cons t ts ih =>
    rw [List.foldr_cons, result_cons, ih]
    cases s.result source <;> rfl

/-- A word that stands between is taken, and the text behind it is scanned as it is alone. -/
theorem tokens_between
    (front : ∀ source, scanFrom (Token.rule source) 0 0 (u ++ (w ++ v))
      = ts.foldr cons (scanFrom (Token.rule source) 0 u.length (w ++ v)))
    (hw : w ≠ []) (word : ∀ source p, Token.rule source p (w ++ v) = .token a w.length)
    (behind : Token.tokens (String.ofList v) = .ok us) :
    Token.tokens (String.ofList (u ++ w ++ v))
      = .ok (ts ++ ⟨a, u.length⟩ :: us.map (Placed.shift (u.length + w.length))) := by
  generalize hsource : String.ofList (u ++ w ++ v) = source
  have text : source.toList = u ++ w ++ v := by rw [← hsource, String.toList_ofList]
  have behind : (scanFrom (Token.rule source) 0 (u.length + w.length) v).result source
      = .ok (us.map (Placed.shift (u.length + w.length))) := by
    rw [Token.tokens, Token.scan, String.toList_ofList] at behind
    rw [← Nat.zero_add (u.length + w.length),
      scanFrom_within (Token.rule_within _ _ (String.ofList v)),
      result_within _ (String.ofList v), behind, Nat.zero_add]
    rfl
  rw [Token.tokens, Token.scan, text, List.append_assoc, front, scanFrom_word hw (word _ _),
    result_foldr_cons, result_cons, behind]
  rfl

end

/-! ### Where a value stands -/

/-- A place for a value in a template. -/
inductive Slot where
  | whole
  | item (before : List Template) (slot : Slot) (after : List Template)
  | member (before : List (Key × Template)) (key : Key) (slot : Slot)
    (after : List (Key × Template))

namespace Slot

/-- The template with a value in its place. -/
def fill : Slot → Template → Template
  | .whole, t => t
  | .item before slot after, t => .array (before ++ slot.fill t :: after)
  | .member before key slot after, t => .document (before ++ (key, slot.fill t) :: after)

/-- The tokens around a place. -/
def Around (slot : Slot) (ts us : List Token) : Prop :=
  ∀ t vs, Yields t vs → Yields (slot.fill t) (ts ++ vs ++ us)

/-- In a text a word stands in the place: it is one of the tokens, and the other tokens are around
    the place. -/
inductive Shows (slot : Slot) (w : List Char) (source : String) : Prop
  | intro {u v : List Char} {a : Token} {ts us : List (Placed Token)}
    (text : source.toList = u ++ w ++ v)
    (tokens : Token.tokens source = .ok (ts ++ ⟨a, u.length⟩ :: us))
    (word : Token.rule source u.length (w ++ v) = .token a w.length)
    (around : slot.Around (ts.map (·.token)) (us.map (·.token)))

/-- The text around a place. What stands in front of it is read alike whatever comes next, but that
    a colon at its end would open a block with a hash. -/
structure Frames (slot : Slot) (u v : List Char) (ts us : List (Placed Token)) : Prop where
  front : ∀ source rest, rest.head? ≠ some '#' → scanFrom (Token.rule source) 0 0 (u ++ rest)
    = ts.foldr cons (scanFrom (Token.rule source) 0 u.length rest)
  behind : Token.tokens (String.ofList v) = .ok us
  ends : ∀ d ∈ v.head?, Text.isDigit d = false
  around : slot.Around (ts.map (·.token)) (us.map (·.token))

variable {slot : Slot} {b : Binding} {t t' : Template}

/-- Any word may stand in a place with its text around it. -/
theorem Frames.shows {u v : List Char} {ts us : List (Placed Token)} (hf : slot.Frames u v ts us)
    (word : IsWord w a) : slot.Shows w (String.ofList (u ++ w ++ v)) := by
  have taken (source : String) (p : Nat) : Token.rule source p (w ++ v) = .token a w.length :=
    word.token source p v hf.ends
  have head : (w ++ v).head? ≠ some '#' := by
    rw [List.head?_append_of_ne_nil _ word.ne_nil]
    exact word.head
  refine .intro String.toList_ofList
    (tokens_between (fun source => hf.front source _ head) word.ne_nil taken hf.behind)
    (taken _ _) ?_
  rw [List.map_map]
  exact hf.around

theorem bindItems_congr (h : b.bind t = b.bind t') (before after : List Template) :
    b.bindItems (before ++ t :: after) = b.bindItems (before ++ t' :: after) := by
  induction before with
  | nil => rw [List.nil_append, List.nil_append, Binding.bindItems, Binding.bindItems, h]
  | cons s before ih =>
    rw [List.cons_append, List.cons_append, Binding.bindItems, Binding.bindItems, ih]

theorem bindMembers_congr (h : b.bind t = b.bind t') (before after : List (Key × Template))
    (key : Key) :
    b.bindMembers (before ++ (key, t) :: after) = b.bindMembers (before ++ (key, t') :: after) := by
  induction before with
  | nil => rw [List.nil_append, List.nil_append, Binding.bindMembers, Binding.bindMembers, h]
  | cons m before ih =>
    obtain ⟨k, s⟩ := m
    rw [List.cons_append, List.cons_append, Binding.bindMembers, Binding.bindMembers, ih]

/-- A template binds as the value in a place of it does. -/
theorem bind_fill (slot : Slot) (h : b.bind t = b.bind t') :
    b.bind (slot.fill t) = b.bind (slot.fill t') := by
  induction slot with
  | whole => exact h
  | item before slot after ih =>
    rw [fill, fill, Binding.bind, Binding.bind, bindItems_congr ih]
  | member before key slot after ih =>
    rw [fill, fill, Binding.bind, Binding.bind, bindMembers_congr ih]

/-- A word in a place of a template is read as the value that its token is. -/
theorem Shows.parse (hs : slot.Shows w source) (word : IsWord w a) (leaf : WritesLeaf t a) :
    Template.parse source = .ok (slot.fill t) := by
  obtain ⟨text, tokens, taken, around⟩ := hs
  obtain rfl := word.unique _ _ _ _ taken
  refine parse_eq_ok.2 ⟨_, tokens, ?_⟩
  have yields := around t _ (.leaf leaf)
  rw [List.append_assoc] at yields
  rw [List.map_append]
  exact yields

end Slot

/-- All spellings of one value bind to it: alone, where its type is kept, and as any value of a
    template, which is read and bound alike whichever spelling stands in it. An index that is too
    long fails alike in all its spellings, alone. -/
theorem spellings_bind_alike {w' : List Char} (h : Spelling x w) (h' : Spelling x w') (b : Binding) :
    b.decodeValue (String.ofList w) = x.bound b ∧
    (∀ slot source source', Slot.Shows slot w source → Slot.Shows slot w' source' →
      (∃ t, parse source = .ok (slot.fill t) ∧ b.bind t = x.bound b) ∧
      b.decodeValue source = b.decodeValue source') ∧
    ∀ w, OverlongSpelling w →
      b.decodeValue (String.ofList w) = Run.lift (.error (.misuse .content)) := by
  refine ⟨h.decodeValue b, fun slot source source' hs hs' => ?_, fun w hw => hw.decodeValue b⟩
  obtain ⟨a, t, leaf, bound, word⟩ := h.exists_leaf
  obtain ⟨a', t', leaf', bound', word'⟩ := h'.exists_leaf
  have parsed := hs.parse word leaf
  have parsed' := hs'.parse word' leaf'
  refine ⟨⟨t, parsed, bound b⟩, ?_⟩
  rw [decodeValue_parsed parsed, decodeValue_parsed parsed',
    slot.bind_fill ((bound b).trans (bound' b).symm)]

/-- The last item of an array in a document. -/
def sampleSlot : Slot := .member [] (.name "a") (.item [.value (.int 1)] .whole []) []

def sampleBinding : Binding := ⟨.int 7, ⟨.null, []⟩⟩

theorem sampleSlot_frames : sampleSlot.Frames "\x7ba: [1, ".toList "]\x7d".toList
    [⟨.openBrace, 0⟩, ⟨.word "a", 1⟩, ⟨.colon, 2⟩, ⟨.openBracket, 4⟩, ⟨.integer 1, 5⟩, ⟨.comma, 6⟩]
    [⟨.closeBracket, 0⟩, ⟨.closeBrace, 1⟩] where
  front _ _ _ := rfl
  behind := rfl
  ends := by
    rintro d ⟨⟩
    decide
  around t vs h := by
    have items := YieldsItems.more (.one (.leaf (.integer 1))) h
    have document := Yields.document (.one (.pair (.word "a") (.array items .nothing))) .nothing
    simpa [sampleSlot, Slot.fill] using document

/-- A quoted placeholder with an escape in it, and a block around an index. -/
theorem spellings_bind_alike_sample :
    sampleBinding.decodeValue "'?\\u0030'" = Mention.bound sampleBinding (.parameter 0) ∧
    sampleBinding.decodeValue "\x7ba: [1, '?\\u0030']\x7d"
      = sampleBinding.decodeValue "\x7ba: [1, ?#\x7b[0]\x7d]\x7d" := by
  have zero : IsIndex ['0'] 0 := isIndex_toDigits (n := 0) (by decide)
  have block : Spelling (.parameter 0) "?#\x7b[0]\x7d".toList :=
    .unquoted (.parameter (o := .question) rfl zero)
  have placeholder : Unquoted (.parameter 0) "?0".toList := .placeholder zero
  have quoted : Spelling (.parameter 0) "'?\\u0030'".toList := by
    refine .quoted placeholder ?_
    exact .intro (w := "?\\u0030".toList) (.inl rfl) (by decide +kernel) (by decide +kernel)
  have alike := spellings_bind_alike quoted block sampleBinding
  obtain ⟨_, _, -, -, word⟩ := quoted.exists_leaf
  obtain ⟨_, _, -, -, word'⟩ := block.exists_leaf
  exact ⟨alike.1,
    (alike.2.1 _ _ _ (sampleSlot_frames.shows word) (sampleSlot_frames.shows word')).2⟩

/-- A place behind a value that there is none of. -/
def lateSlot : Slot := .member [(.name "a", .expression "#nope")] (.name "b") .whole []

def lateText : List Char := "\x7ba: ?#\x7b#nope\x7d, b: ".toList

theorem lateSlot_frames : lateSlot.Frames lateText ['}']
    [⟨.openBrace, 0⟩, ⟨.word "a", 1⟩, ⟨.colon, 2⟩, ⟨.expression "#nope", 4⟩, ⟨.comma, 13⟩,
      ⟨.word "b", 15⟩, ⟨.colon, 16⟩] [⟨.closeBrace, 0⟩] where
  front _ _ _ := rfl
  behind := rfl
  ends := by
    rintro d ⟨⟩
    decide
  around t vs h := by
    have first := YieldsMembers.one (.pair (.word "a") (.leaf (.expression "#nope")))
    have document := Yields.document (.more first (.pair (.word "b") h)) .nothing
    simpa [lateSlot, Slot.fill] using document

/-- Not in every place an index that is too long fails alike: without quotes it is found before
    anything is evaluated. -/
theorem overlong_index_is_found_first : ¬∀ (b : Binding) (slot : Slot) (u v w w' : List Char)
    (ts us : List (Placed Token)), slot.Frames u v ts us → OverlongSpelling w →
      OverlongSpelling w' → (b.decodeValue (String.ofList (u ++ w ++ v))).outcome .fresh
        = (b.decodeValue (String.ofList (u ++ w' ++ v))).outcome .fresh := by
  intro h
  have digits : ∀ d ∈ overlong, Text.isDigit d = true := fun d hd =>
    isDigit_ascii (overlong_isNumeral.digits d hd)
  have index : OverlongIndex ('?' :: overlong) := .placeholder digits overlong_length
  have quotes := Token.quotes_quotedWord (String.ofList ('?' :: overlong))
  have quoted := OverlongSpelling.quoted (by rw [String.toList_ofList]; exact index) quotes
  have same := h sampleBinding lateSlot _ _ _ _ _ _ lateSlot_frames (.unquoted index) quoted
  -- Without quotes the tokens end at the index.
  have unread : parse (String.ofList (lateText ++ '?' :: overlong ++ ['}']))
      = .error (.misuse .content) := by
    rw [parse, Token.scan, String.toList_ofList, List.append_assoc,
      lateSlot_frames.front _ _ (by simp), List.cons_append, scanFrom_failure (List.cons_ne_nil _ _)]
    · exact Reader.read_of_failure _ rfl rfl
    · rw [Token.rule_marked_digits (ne_nil_of_long overlong_length) digits lateSlot_frames.ends,
        Lexeme.of_overlong (isReadable_long digits overlong_length)]
  -- In quotes the template is read, and the value in front is evaluated first.
  have word := isWord_quoted quotes
  have read := (lateSlot_frames.shows word).parse word (.string _)
  rw [Binding.decodeValue, Binding.decodeValue, unread, read] at same
  cases same

end LinkedDocs.Template
