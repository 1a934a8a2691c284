import LinkedDocs.Proofs.Evaluation
import LinkedDocs.Proofs.KeyPlaces
import LinkedDocs.Proofs.WordExchange

/-! The spellings of a bound key.

    A key may be a placeholder or a block, with either mark, in quotes or without. Without quotes
    the bound value is written out; in quotes the key is read as a text around what is bound, where
    null is written as nothing. So a key is the same in quotes and without, unless it is bound to
    null: then it is the word for null without quotes, and empty in them. Otherwise a document of a
    template, wherever it stands, binds alike whichever spelling its key has.

    In a text one spelling may take the place of another if the blocks in front can be read. A block
    with a quote that nothing closes cannot be: it ends at its brace only as long as no such quote
    follows, and no template with such a block decodes. -/

namespace LinkedDocs.Template

open Scan

variable {x : Mention} {w w' : List Char} {quoted quoted' : Bool} {b : Binding} {k k' : Key}
  {source : String}

/-! ### A key and its spellings -/

namespace Mention

/-- The key for what is bound. -/
def key (b : Binding) (quoted : Bool) (x : Mention) : Run Binding.Memory String := do
  let v ← x.value b
  Run.value (if quoted then Binding.rendered v else v.written)

def bareKey : Mention → Key
  | .parameter n => .placeholder n
  | .block e => .expression e

theorem writes_bareKey (y : Mention) : WritesKey y.bareKey y.token := by
  cases y with
  | parameter n => exact .placeholder n
  | block e => exact .expression e

theorem bindKey_bareKey (b : Binding) (y : Mention) : b.bindKey y.bareKey = y.key b false := by
  cases y <;> rfl

/-- A quoted key that is one segment is the text of that segment. -/
theorem bindKey_string {content : String} {y : Mention}
    (h : Segment.split content = .ok [y.segment]) (b : Binding) :
    b.bindKey (.string content) = y.key b true := by
  have segments : (Run.lift (Segment.split content) : Run Binding.Memory (List Segment))
      = pure [y.segment] := by rw [h]; rfl
  rw [Binding.bindKey, Binding.interpolate, segments, pure_bind, Binding.renderAll,
    Binding.renderAll]
  simp only [pure_bind, String.append_empty, bind_pure]
  cases y <;> rfl

theorem steady_value (b : Binding) (x : Mention) : Run.Steady b.Coherent (x.value b) := by
  cases x with
  | parameter n => exact .lift _
  | block e => exact b.steady_evaluate e

theorem rendered_eq {v : Value} (h : v ≠ .null) : Binding.rendered v = v.written := by
  cases v <;> first | rfl | contradiction

/-- Only null is written in two ways. -/
theorem agree_key (x : Mention) (same : quoted = quoted' ∨ (x.value b).outcome .fresh ≠ .ok .null) :
    Run.Agree b.Coherent (x.key b quoted) (x.key b quoted') := by
  rcases same with rfl | notNull
  · intro m hm
    rfl
  · intro m hm
    obtain ⟨m', -, hrun⟩ := (x.steady_value b).amountsTo b.coherent_fresh m hm
    rw [key, key, Run.exec_bind, Run.exec_bind, hrun]
    cases hv : (x.value b).outcome .fresh with
    | error e => rfl
    | ok v =>
      have one : Binding.rendered v = v.written := by
        refine rendered_eq fun null => notNull ?_
        rw [hv, null]
      simp only [one, ite_self]

end Mention

/-- A spelling of a key, in quotes or without. -/
inductive KeySpelling (x : Mention) : Bool → List Char → Prop
  | unquoted {w : List Char} (h : Unquoted x w) : KeySpelling x false w
  | quoted {w : List Char} {content : String} (h : Unquoted x content.toList)
    (hw : Token.Quotes w content) : KeySpelling x true w

/-- A spelling is one token, and the key that this token is read as is bound to what is spelled. -/
theorem KeySpelling.exists_key (h : KeySpelling x quoted w) : ∃ a k, WritesKey k a ∧
    (∀ b : Binding, b.bindKey k = x.key b quoted) ∧ IsWord w a := by
  cases h with
  | unquoted h =>
    obtain ⟨y, hy⟩ := h.readsAs
    refine ⟨y.token, y.bareKey, y.writes_bareKey, fun b => ?_, hy.toIsWord⟩
    rw [y.bindKey_bareKey, Mention.key, hy.value, Mention.key]
  | @quoted _ content h hw =>
    obtain ⟨y, hy⟩ := h.readsAs
    have segment := hy.segment
    rw [String.ofList_toList] at segment
    refine ⟨.string content, .string content, .string content, fun b => ?_, isWord_quoted hw⟩
    rw [Mention.bindKey_string segment, Mention.key, hy.value, Mention.key]

/-- A spelling begins with a quote or a mark. -/
theorem KeySpelling.endsAt (h : KeySpelling x quoted w) (rest : List Char) :
    EndsAt keyMarks (w ++ rest) := by
  have begins {c : Char} {cs : List Char} (hc : c ∈ keyMarks) : EndsAt keyMarks (c :: cs) := by
    rintro d ⟨⟩
    exact .inr hc
  have block {o : Opener} (hmark : o.isMarked = true) (e : String) :
      EndsAt keyMarks ((o.block e).toList ++ rest) := by
    rw [o.toList_block]
    cases o with
    | bare => cases hmark
    | question => exact begins (by decide)
    | colon => exact begins (by decide)
  cases h with
  | unquoted h =>
    cases h with
    | placeholder h => exact begins (by decide)
    | parameter hmark h => exact block hmark _
    | block hmark h => exact block hmark _
  | quoted h hw =>
    obtain ⟨hq, ends, content⟩ := hw
    refine begins ?_
    rcases hq with rfl | rfl <;> decide

/-! ### Keys in a text -/

namespace KeyPlace

variable {place : KeyPlace} {u v : List Char}

/-- A spelling in the place of a key is read as the key it spells. -/
theorem Shows.parse (hs : place.Shows u w v) (h : KeySpelling x quoted w) :
    ∃ k, Template.parse (String.ofList (u ++ w ++ v)) = .ok (place.fill k) ∧
      ∀ b : Binding, b.bindKey k = x.key b quoted := by
  obtain ⟨tokens, word, around⟩ := hs
  obtain ⟨a, k, writes, bound, isWord⟩ := h.exists_key
  obtain rfl := isWord.unique _ _ _ _ word
  refine ⟨k, parse_eq_ok.2 ⟨_, tokens, ?_⟩, bound⟩
  rw [List.map_append, List.map_cons]
  exact around k _ writes

end KeyPlace

/-- The blocks in front of a word are around expressions that are made of tokens. -/
def ReadableFront (u w v : List Char) : Prop := ∀ ts a us,
  Token.tokens (String.ofList (u ++ w ++ v)) = .ok (ts ++ ⟨a, u.length⟩ :: us) →
  ∀ t ∈ ts, t.token.HasTokens

/-- In a text any spelling of a key may take the place of any other. -/
theorem KeyPlace.Shows.exchange {place : KeyPlace} {u v : List Char} {x' : Mention}
    (hs : place.Shows u w v) (readable : ReadableFront u w v)
    (h : KeySpelling x quoted w) (h' : KeySpelling x' quoted' w') : place.Shows u w' v := by
  obtain @⟨a, ts, us, tokens, word, around⟩ := hs
  have text : (String.ofList (u ++ w ++ v)).toList = u ++ (w ++ v) := by
    rw [String.toList_ofList, List.append_assoc]
  obtain ⟨vs, colon⟩ := around.colon
  have ends := h.endsAt v
  obtain ⟨a₀, k₀, -, -, isWord⟩ := h.exists_key
  obtain ⟨a', k, -, -, isWord'⟩ := h'.exists_key
  have hts := readable ts a us tokens
  have noDigit := noDigit_of_colon text tokens hts ends isWord.ne_nil word colon
  have word' (source : String) (p : Nat) := isWord'.token source p v noDigit
  obtain ⟨us', same, tokens'⟩ := tokens_exchange text tokens hts ends isWord.ne_nil word
    (h'.endsAt v) isWord'.ne_nil word'
  refine .intro tokens' (word' _ _) ?_
  rw [same]
  exact around

/-! ### Blocks of templates that decode -/

section

open Run

theorem hasTokens_of_evaluate {e : String} (h : Succeeds (b.evaluate e)) :
    ∃ ts, Expr.Token.tokens e = .ok ts := by
  obtain ⟨x, parsed⟩ := h.of_bind.1.of_lift
  obtain ⟨ts, hts, -⟩ := Expr.parse_eq_ok.1 parsed
  exact ⟨ts, hts⟩

theorem WritesLeaf.hasTokens {t : Template} {a : Token} (h : WritesLeaf t a)
    (succeeds : Succeeds (b.bind t)) : a.HasTokens := by
  cases h with
  | expression s =>
    rintro e ⟨⟩
    exact hasTokens_of_evaluate succeeds.of_bind.1
  | string | placeholder | integer | float | keyword => exact nofun

theorem WritesKey.hasTokens {a : Token} (h : WritesKey k a) (succeeds : Succeeds (b.bindKey k)) :
    a.HasTokens := by
  cases h with
  | expression s =>
    rintro e ⟨⟩
    exact hasTokens_of_evaluate succeeds.of_bind.1
  | string | placeholder | word | integer | float | keyword | objectId => exact nofun

theorem succeeds_of_bindItems {ts : List Template} (h : Succeeds (b.bindItems ts)) :
    ∀ t ∈ ts, Succeeds (b.bind t) := by
  induction ts with
  | nil => exact List.forall_mem_nil _
  | cons t ts ih =>
    obtain ⟨first, v, rest⟩ := h.of_bind
    exact List.forall_mem_cons.2 ⟨first, ih rest.of_bind.1⟩

theorem succeeds_of_bindMembers {ms : List (Key × Template)} (h : Succeeds (b.bindMembers ms)) :
    ∀ m ∈ ms, Succeeds (b.bindKey m.1) ∧ Succeeds (b.bind m.2) := by
  induction ms with
  | nil => exact List.forall_mem_nil _
  | cons m ms ih =>
    obtain ⟨k, t⟩ := m
    obtain ⟨key, _, rest⟩ := h.of_bind
    obtain ⟨value, v, rest⟩ := rest.of_bind
    exact List.forall_mem_cons.2 ⟨⟨key, value⟩, ih rest.of_bind.1⟩

theorem Trailing.hasTokens {ts : List Token} (h : Trailing ts) : ∀ a ∈ ts, a.HasTokens := by
  cases h with
  | nothing => exact List.forall_mem_nil _
  | comma => exact List.forall_mem_singleton.2 nofun

-- Binding stops at the first fault, so a template that binds has bound each of its parts.
mutual

theorem Yields.hasTokens : ∀ {t : Template} {ts : List Token}, Yields t ts → Succeeds (b.bind t) →
    ∀ a ∈ ts, a.HasTokens
  | _, _, .leaf h, succeeds => List.forall_mem_singleton.2 (h.hasTokens succeeds)
  | _, _, .objectId _, _ => by simp [Token.HasTokens]
  | _, _, .emptyArray, _ => by simp [Token.HasTokens]
  | _, _, .emptyDocument, _ => by simp [Token.HasTokens]
  | _, _, .array h hmore, succeeds => by
    have items := h.hasTokens (succeeds_of_bindItems succeeds.of_bind.1)
    refine List.forall_mem_append.2 ⟨List.forall_mem_append.2 ⟨?_, hmore.hasTokens⟩, ?_⟩
    · exact List.forall_mem_cons.2 ⟨nofun, items⟩
    · exact List.forall_mem_singleton.2 nofun
  | _, _, .document h hmore, succeeds => by
    have members := h.hasTokens (succeeds_of_bindMembers succeeds.of_bind.1)
    refine List.forall_mem_append.2 ⟨List.forall_mem_append.2 ⟨?_, hmore.hasTokens⟩, ?_⟩
    · exact List.forall_mem_cons.2 ⟨nofun, members⟩
    · exact List.forall_mem_singleton.2 nofun

theorem YieldsItems.hasTokens : ∀ {items : List Template} {ts : List Token}, YieldsItems items ts →
    (∀ t ∈ items, Succeeds (b.bind t)) → ∀ a ∈ ts, a.HasTokens
  | _, _, .one h, succeeds => h.hasTokens (succeeds _ List.mem_cons_self)
  | _, _, .more hs h, succeeds => by
    obtain ⟨front, last⟩ := List.forall_mem_append.1 succeeds
    refine List.forall_mem_append.2 ⟨hs.hasTokens front, ?_⟩
    exact List.forall_mem_cons.2 ⟨nofun, h.hasTokens (last _ List.mem_cons_self)⟩

theorem YieldsMember.hasTokens : ∀ {m : Key × Template} {ts : List Token}, YieldsMember m ts →
    Succeeds (b.bindKey m.1) → Succeeds (b.bind m.2) → ∀ a ∈ ts, a.HasTokens
  | _, _, .pair hk h, ofKey, ofValue => by
    refine List.forall_mem_cons.2 ⟨hk.hasTokens ofKey, ?_⟩
    exact List.forall_mem_cons.2 ⟨nofun, h.hasTokens ofValue⟩

theorem YieldsMembers.hasTokens : ∀ {ms : List (Key × Template)} {ts : List Token},
    YieldsMembers ms ts → (∀ m ∈ ms, Succeeds (b.bindKey m.1) ∧ Succeeds (b.bind m.2)) →
    ∀ a ∈ ts, a.HasTokens
  | _, _, .one h, succeeds =>
    have ⟨ofKey, ofValue⟩ := succeeds _ List.mem_cons_self
    h.hasTokens ofKey ofValue
  | _, _, .more hs h, succeeds => by
    obtain ⟨front, last⟩ := List.forall_mem_append.1 succeeds
    obtain ⟨ofKey, ofValue⟩ := last _ List.mem_cons_self
    refine List.forall_mem_append.2 ⟨hs.hasTokens front, ?_⟩
    exact List.forall_mem_cons.2 ⟨nofun, h.hasTokens ofKey ofValue⟩

end

/-- The blocks of a template that decodes are made of tokens. -/
theorem readableFront_of_decodes {u v : List Char}
    (h : Succeeds (b.decodeValue (String.ofList (u ++ w ++ v)))) : ReadableFront u w v := by
  intro ts a us tokens t ht
  obtain ⟨s, v', s', hrun⟩ := h
  obtain ⟨template, mid, parsed, bound⟩ := Run.exec_bind_ok hrun
  obtain ⟨all, hall, yields⟩ := parse_eq_ok.1 (congrArg Prod.fst parsed)
  have tokens' : all = ts ++ ⟨a, u.length⟩ :: us := Except.ok.inj (hall.symm.trans tokens)
  have mem : t ∈ all := by
    rw [tokens']
    exact List.mem_append_left _ ht
  exact yields.hasTokens ⟨mid, v', s', bound⟩ _ (List.mem_map_of_mem mem)

end

/-! ### Templates with keys that agree -/

/-- Members in front are bound first, and alike. -/
theorem agree_bindMembers {ms ms' : List (Key × Template)}
    (h : Run.Agree b.Coherent (b.bindMembers ms) (b.bindMembers ms'))
    (before : List (Key × Template)) :
    Run.Agree b.Coherent (b.bindMembers (before ++ ms)) (b.bindMembers (before ++ ms')) := by
  induction before with
  | nil => exact h
  | cons m before ih =>
    obtain ⟨k, t⟩ := m
    exact .behind (b.steady_bindKey k) fun k => .behind (b.steady_bind t) fun v => ih.front _

theorem agree_bindItems {ts ts' : List Template}
    (h : Run.Agree b.Coherent (b.bindItems ts) (b.bindItems ts')) (before : List Template) :
    Run.Agree b.Coherent (b.bindItems (before ++ ts)) (b.bindItems (before ++ ts')) := by
  induction before with
  | nil => exact h
  | cons t before ih => exact .behind (b.steady_bind t) fun v => ih.front _

/-- A template binds as the value in a place of it does. -/
theorem Slot.agree_fill {t t' : Template} (slot : Slot)
    (h : Run.Agree b.Coherent (b.bind t) (b.bind t')) :
    Run.Agree b.Coherent (b.bind (slot.fill t)) (b.bind (slot.fill t')) := by
  induction slot with
  | whole => exact h
  | item before slot after ih => exact (agree_bindItems (ih.front _) before).front _
  | member before key slot after ih =>
    refine (agree_bindMembers ?_ before).front _
    exact .behind (b.steady_bindKey key) fun k => ih.front _

/-- A template binds as the key in a place of it does. -/
theorem KeyPlace.agree_fill (place : KeyPlace)
    (h : Run.Agree b.Coherent (b.bindKey k) (b.bindKey k')) :
    Run.Agree b.Coherent (b.bind (place.fill k)) (b.bind (place.fill k')) :=
  place.slot.agree_fill ((agree_bindMembers (h.front _) place.before).front _)

/-- Two texts decode alike, but for the text that is named where there is no document. -/
def DecodeAlike (b : Binding) (source source' : String) : Prop := ∀ m, b.Coherent m →
  (b.decodeValue source).exec m = (b.decodeValue source').exec m ∧
  ((b.decode source).exec m = (b.decode source').exec m ∨ ∃ type m',
    (b.decode source).exec m = (.error (.expression (.notADocument source type)), m') ∧
    (b.decode source').exec m = (.error (.expression (.notADocument source' type)), m'))

theorem decodeAlike_of_values {source' : String}
    (h : Run.Agree b.Coherent (b.decodeValue source) (b.decodeValue source')) :
    DecodeAlike b source source' := by
  intro m hm
  have values := h m hm
  refine ⟨values, ?_⟩
  rw [Binding.decode, Binding.decode, Run.exec_bind, Run.exec_bind, ← values]
  match (b.decodeValue source).exec m with
  | (.error e, m') => exact .inl rfl
  | (.ok v, m') =>
    simp only
    cases v.isMapping with
    | true => exact .inl rfl
    | false => exact .inr ⟨v.typeName, m', rfl, rfl⟩

/-- A word that stands as a key of a template stands in some place of it, and the text is the
    template with the key that is spelled there. Any other spelling of it may take its place in the
    text, if the blocks in front can be read, as they can if the template decodes; and quotes make
    no difference to the key or to what the template decodes to, unless the key is bound to null. -/
theorem key_spellings_decode_alike (h : KeySpelling x quoted w) (h' : KeySpelling x quoted' w')
    (b : Binding) (same : quoted = quoted' ∨ (x.value b).outcome .fresh ≠ .ok .null)
    {u v : List Char} (stands : StandsAsKey u w v) :
    (∃ place : KeyPlace, place.Shows u w v) ∧ ∀ place : KeyPlace, place.Shows u w v →
      (ReadableFront u w v ∨ Run.Succeeds (b.decodeValue (String.ofList (u ++ w ++ v))) →
        place.Shows u w' v) ∧
      ∀ u' v', place.Shows u' w' v' →
        (∃ k k', parse (String.ofList (u ++ w ++ v)) = .ok (place.fill k) ∧
          parse (String.ofList (u' ++ w' ++ v')) = .ok (place.fill k') ∧
          b.bindKey k = x.key b quoted ∧ b.bindKey k' = x.key b quoted' ∧
          Run.Agree b.Coherent (b.bindKey k) (b.bindKey k')) ∧
        DecodeAlike b (String.ofList (u ++ w ++ v)) (String.ofList (u' ++ w' ++ v')) := by
  refine ⟨stands.exists_place, fun place hs => ⟨fun readable => ?_, fun u' v' hs' => ?_⟩⟩
  · exact hs.exchange (readable.elim id readableFront_of_decodes) h h'
  · obtain ⟨k, parsed, bound⟩ := hs.parse h
    obtain ⟨k', parsed', bound'⟩ := hs'.parse h'
    have keys : Run.Agree b.Coherent (b.bindKey k) (b.bindKey k') := by
      rw [bound, bound']
      exact x.agree_key same
    refine ⟨⟨k, k', parsed, parsed', bound b, bound' b, keys⟩, decodeAlike_of_values ?_⟩
    rw [decodeValue_parsed parsed, decodeValue_parsed parsed']
    exact place.agree_fill keys

/-! ### A key behind another member -/

namespace SampleKey

def place : KeyPlace := ⟨.whole, [(.name "a", .value (.int 1))], .value (.int 2), []⟩

def front : List Char := "\x7ba: 1, ".toList

def behind : List Char := ": 2\x7d".toList

def zero : List Char := "?0".toList

/-- In quotes, with an escape. -/
def quotedZero : List Char := "'?\\u0030'".toList

theorem zero_spelling : KeySpelling (.parameter 0) false zero :=
  .unquoted (.placeholder (isIndex_toDigits (n := 0) (by decide)))

theorem quotedZero_spelling : KeySpelling (.parameter 0) true quotedZero := by
  have placeholder : Unquoted (.parameter 0) "?0".toList :=
    .placeholder (isIndex_toDigits (n := 0) (by decide))
  refine .quoted placeholder ?_
  exact .intro (w := "?\\u0030".toList) (.inl rfl) (by decide +kernel) (by decide +kernel)

def tokensInFront : List (Placed Token) :=
  [⟨.openBrace, 0⟩, ⟨.word "a", 1⟩, ⟨.colon, 2⟩, ⟨.integer 1, 4⟩, ⟨.comma, 5⟩]

def tokensBehind : List (Placed Token) := [⟨.colon, 9⟩, ⟨.integer 2, 11⟩, ⟨.closeBrace, 12⟩]

theorem tokens_zero : Token.tokens (String.ofList (front ++ zero ++ behind))
    = .ok (tokensInFront ++ ⟨.placeholder 0, front.length⟩ :: tokensBehind) := by rfl

theorem around_place : place.Around (tokensInFront.map (·.token)) (tokensBehind.map (·.token)) := by
  intro k a h
  have first := YieldsMembers.one (.pair (.word "a") (.leaf (.integer 1)))
  have members := first.more (.pair h (.leaf (.integer 2)))
  exact .document members .nothing

theorem shows_zero : place.Shows front zero behind := .intro tokens_zero rfl around_place

theorem zero_stands : StandsAsKey front zero behind :=
  .intro tokens_zero rfl (around_place _ _ (.word "b"))

theorem readable_zero : ReadableFront front zero behind := by
  intro ts a us tokens t ht
  have mem := List.mem_append_left (⟨a, front.length⟩ :: us) ht
  rw [← Except.ok.inj (tokens_zero.symm.trans tokens)] at mem
  have all : ∀ t ∈ tokensInFront ++ ⟨.placeholder 0, front.length⟩ :: tokensBehind,
      t.token.HasTokens := by
    simp [tokensInFront, tokensBehind, Token.HasTokens]
  exact all t mem

theorem parse_zero : parse (String.ofList (front ++ zero ++ behind))
    = .ok (place.fill (.placeholder 0)) := by rfl

theorem parse_quotedZero : parse (String.ofList (front ++ quotedZero ++ behind))
    = .ok (place.fill (.string "?0")) := by rfl

/-- The key is the text of the integer, in quotes and without. -/
theorem decode_integer_key :
    place.Shows front quotedZero behind ∧
    (sampleBinding.decode "\x7ba: 1, ?0: 2\x7d").outcome .fresh
      = .ok (.map [(.text "a", .int 1), (.text "7", .int 2)]) ∧
    (sampleBinding.decode "\x7ba: 1, '?\\u0030': 2\x7d").outcome .fresh
      = .ok (.map [(.text "a", .int 1), (.text "7", .int 2)]) := by
  have notNull : (Mention.value sampleBinding (.parameter 0)).outcome .fresh ≠ .ok .null := nofun
  obtain ⟨-, places⟩ := key_spellings_decode_alike zero_spelling quotedZero_spelling
    sampleBinding (.inr notNull) zero_stands
  obtain ⟨exchanged, alike⟩ := places place shows_zero
  have shown := exchanged (.inl readable_zero)
  have bare : (sampleBinding.decode (String.ofList (front ++ zero ++ behind))).exec .fresh
      = (.ok (.map [(.text "a", .int 1), (.text "7", .int 2)]), .fresh) := by
    rw [Binding.decode, decodeValue_parsed parse_zero]
    rfl
  refine ⟨shown, congrArg Prod.fst bare, ?_⟩
  rcases ((alike _ _ shown).2 .fresh sampleBinding.coherent_fresh).2 with same | ⟨type, m, fault, -⟩
  · exact congrArg Prod.fst (same.symm.trans bare)
  · cases bare.symm.trans fault

def nothing : Binding := ⟨.null, ⟨.null, []⟩⟩

/-- Null is the word for it without quotes, and nothing in them. -/
theorem null_key_differs : ¬ ∀ (x : Mention) (quoted quoted' : Bool) (w w' : List Char)
    (b : Binding) (u v : List Char), KeySpelling x quoted w → KeySpelling x quoted' w' →
    StandsAsKey u w v → ReadableFront u w v →
    (b.decode (String.ofList (u ++ w ++ v))).outcome .fresh
      = (b.decode (String.ofList (u ++ w' ++ v))).outcome .fresh := by
  intro alike
  have same := alike _ _ _ _ _ nothing _ _ zero_spelling quotedZero_spelling zero_stands
    readable_zero
  have bare : (nothing.decode (String.ofList (front ++ zero ++ behind))).outcome .fresh
      = .ok (.map [(.text "a", .int 1), (.text "None", .int 2)]) := by
    rw [Binding.decode, decodeValue_parsed parse_zero]
    rfl
  have quoted : (nothing.decode (String.ofList (front ++ quotedZero ++ behind))).outcome .fresh
      = .ok (.map [(.text "a", .int 1), (.text "", .int 2)]) := by
    rw [Binding.decode, decodeValue_parsed parse_quotedZero]
    rfl
  have texts := bare.symm.trans (same.trans quoted)
  simp at texts

end SampleKey

end LinkedDocs.Template
