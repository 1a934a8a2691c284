import LinkedDocs.Store.Query

/-! What a filter says of a document.

    A filter is tested condition by condition, each one only if those before it hold, and a
    condition that makes no sense ends the test. But for such failures the order of testing does not
    show: a filter says that all its conditions hold, and a list of filters that some, all or none
    of them do. So filters that differ in their order of writing say the same, and the operators
    obey the laws of a Boolean algebra. -/

namespace LinkedDocs.Query

open Value (Entries)

/-! ### What a test decides -/

/-- If the test succeeds, its answer is whether the statement holds. -/
def Decides (t : Test) (P : Prop) : Prop := ∀ b, t = .ok b → (b = true ↔ P)

namespace Decides

variable {t u : Test} {P Q : Prop}

theorem self (t : Test) : Decides t (t = .ok true) := by
  intro b hb
  rw [hb, Except.ok.injEq]

theorem ok {b : Bool} (h : b = true ↔ P) : Decides (.ok b) P := by
  rintro _ ⟨⟩
  exact h

theorem error (e : Failure) : Decides (.error e) P := by
  intro b hb
  contradiction

theorem congr (h : Decides t P) (hPQ : P ↔ Q) : Decides t Q :=
  fun b hb => (h b hb).trans hPQ

theorem negated (h : Decides t P) : Decides (negated t) (¬P) := by
  cases t with
  | error e => exact error e
  | ok a => exact ok (by rw [← h a rfl]; simp)

/-- The second test is made only if the first one passes. -/
theorem and (ht : Decides t P) (hu : Decides u Q) :
    Decides (do if ← t then u else pure false) (P ∧ Q) := by
  cases t with
  | error e => exact error e
  | ok a =>
    have first := ht a rfl
    cases a with
    | false => exact ok (by simp [← first])
    | true => exact hu.congr (by simp [← first])

/-- The second test is made only if the first one does not pass. -/
theorem or (ht : Decides t P) (hu : Decides u Q) :
    Decides (do if ← t then pure true else u) (P ∨ Q) := by
  cases t with
  | error e => exact error e
  | ok a =>
    have first := ht a rfl
    cases a with
    | false => exact hu.congr (by simp [← first])
    | true => exact ok (by simp [← first])

/-- Two tests of one statement agree if both succeed. -/
theorem agree (ht : Decides t P) (hu : Decides u P) {a b : Bool} (ha : t = .ok a) (hb : u = .ok b) :
    a = b := by
  rw [Bool.eq_iff_iff, ht a ha, hu b hb]

end Decides

theorem allTrue_eq_true {α : Type} {f : α → Test} {xs : List α} :
    allTrue f xs = .ok true ↔ ∀ x ∈ xs, f x = .ok true := by
  induction xs with
  | nil => exact iff_of_true rfl (List.forall_mem_nil _)
  | cons x xs ih =>
    rw [List.forall_mem_cons, ← ih, allTrue]
    cases f x with
    | error e => simp [bind, Except.bind]
    | ok b => cases b <;> simp [bind, Except.bind, pure, Except.pure]

/-! ### Testing field by field -/

/-- Tests the condition of one field. -/
def testField (doc field condition : Value) : Test :=
  match junction? field with
  | some .or => anyFilter doc condition
  | some .and => allFilters doc condition
  | some .nor => negated (anyFilter doc condition)
  | none => fieldValue? doc field >>= (checkCondition · condition)

theorem matchesEntries_cons (doc field condition : Value) (es : Entries) :
    matchesEntries doc ((field, condition) :: es) =
      (do if ← testField doc field condition then matchesEntries doc es else pure false) := by
  rw [matchesEntries, testField]
  cases junction? field with
  | none => exact (bind_assoc _ _ _).symm
  | some j => cases j <;> rfl

/-- A test that is the last one. -/
theorem last_test (t : Test) : (do if ← t then pure true else pure false) = t := by
  cases t with
  | error e => rfl
  | ok b => cases b <;> rfl

theorem matchesFilter_single (doc field condition : Value) :
    matchesFilter doc (.map [(field, condition)]) = testField doc field condition := by
  rw [matchesFilter, matchesEntries_cons]
  exact last_test _

/-! ### What filters say -/

mutual

/-- What a filter says of a document. -/
def Says (doc : Value) : Value → Prop
  | .map es | .mapping _ es => SaysAll doc es
  | _ => False
termination_by structural f => f

/-- All conditions of a filter hold. -/
def SaysAll (doc : Value) : List (Value × Value) → Prop
  | [] => True
  | (field, condition) :: es =>
    (match junction? field with
      | some .or => SomeSays doc condition
      | some .and => EverySays doc condition
      | some .nor => ¬SomeSays doc condition
      | none => (fieldValue? doc field >>= (checkCondition · condition)) = .ok true) ∧
    SaysAll doc es
termination_by structural es => es

/-- Some filter of a list holds. -/
def SomeSays (doc : Value) : Value → Prop
  | .list fs | .tuple fs => SomeOf doc fs
  | _ => False
termination_by structural f => f

/-- Every filter of a list holds. -/
def EverySays (doc : Value) : Value → Prop
  | .list fs | .tuple fs => EveryOf doc fs
  | _ => True
termination_by structural f => f

def SomeOf (doc : Value) : List Value → Prop
  | [] => False
  | f :: fs => Says doc f ∨ SomeOf doc fs
termination_by structural fs => fs

def EveryOf (doc : Value) : List Value → Prop
  | [] => True
  | f :: fs => Says doc f ∧ EveryOf doc fs
termination_by structural fs => fs

end

/-- What the condition of one field says of a document. -/
def FieldSays (doc field condition : Value) : Prop :=
  match junction? field with
  | some .or => SomeSays doc condition
  | some .and => EverySays doc condition
  | some .nor => ¬SomeSays doc condition
  | none => (fieldValue? doc field >>= (checkCondition · condition)) = .ok true

variable {doc : Value} {es : Entries} {fs : List Value}

theorem saysAll_iff : SaysAll doc es ↔ ∀ e ∈ es, FieldSays doc e.1 e.2 := by
  induction es with
  | nil => simp [SaysAll]
  | cons e es ih =>
    rw [List.forall_mem_cons, ← ih]
    rfl

theorem says_iff {f : Value} (h : f.entries? = some es) :
    Says doc f ↔ ∀ e ∈ es, FieldSays doc e.1 e.2 := by
  rw [← saysAll_iff]
  cases f <;> cases h <;> rfl

theorem someSays_iff {c : Value} (h : c.sequence? = some fs) :
    SomeSays doc c ↔ ∃ f ∈ fs, Says doc f := by
  have some_iff (fs : List Value) : SomeOf doc fs ↔ ∃ f ∈ fs, Says doc f := by
    induction fs with
    | nil => simp [SomeOf]
    | cons f fs ih => simp [SomeOf, ih]
  cases c <;> cases h <;> exact some_iff fs

theorem everySays_iff {c : Value} (h : c.sequence? = some fs) :
    EverySays doc c ↔ ∀ f ∈ fs, Says doc f := by
  have every_iff (fs : List Value) : EveryOf doc fs ↔ ∀ f ∈ fs, Says doc f := by
    induction fs with
    | nil => simp [EveryOf]
    | cons f fs ih => simp [EveryOf, ih]
  cases c <;> cases h <;> exact every_iff fs

/-- What is no list of filters has no member, or one that cannot be tested. -/
theorem anyFilter_noList {c : Value} (h : c.sequence? = none) : Decides (anyFilter doc c) False := by
  unfold anyFilter
  split
  · contradiction
  · contradiction
  · split
    · exact .ok (by simp)
    · exact .error _
    · exact .error _

theorem allFilters_noList {c : Value} (h : c.sequence? = none) : Decides (allFilters doc c) True := by
  unfold allFilters
  split
  · contradiction
  · contradiction
  · split
    · exact .ok (by simp)
    · exact .error _
    · exact .error _

mutual

/-- Testing a filter decides what it says. -/
theorem decides_filter (doc f : Value) : Decides (matchesFilter doc f) (Says doc f) := by
  cases f with
  | map es | mapping _ es => exact decides_entries doc es
  | _ => exact .error _
termination_by structural f

theorem decides_entries (doc : Value) : ∀ es : Entries,
    Decides (matchesEntries doc es) (SaysAll doc es)
  | [] => .ok (iff_of_true rfl trivial)
  | (field, condition) :: es => by
    rw [matchesEntries_cons, SaysAll]
    refine .and ?_ (decides_entries doc es)
    unfold testField
    match junction? field with
    | some .or => exact decides_some doc condition
    | some .and => exact decides_every doc condition
    | some .nor => exact (decides_some doc condition).negated
    | none => exact .self _
termination_by structural es => es

theorem decides_some (doc c : Value) : Decides (anyFilter doc c) (SomeSays doc c) := by
  cases c with
  | list fs | tuple fs => exact decides_someOf doc fs
  | _ => exact anyFilter_noList rfl
termination_by structural c

theorem decides_every (doc c : Value) : Decides (allFilters doc c) (EverySays doc c) := by
  cases c with
  | list fs | tuple fs => exact decides_everyOf doc fs
  | _ => exact allFilters_noList rfl
termination_by structural c

theorem decides_someOf (doc : Value) : ∀ fs : List Value,
    Decides (anyOfFilters doc fs) (SomeOf doc fs)
  | [] => .ok (by simp [SomeOf])
  | f :: fs => by
    rw [anyOfFilters, SomeOf]
    exact .or (decides_filter doc f) (decides_someOf doc fs)
termination_by structural fs => fs

theorem decides_everyOf (doc : Value) : ∀ fs : List Value,
    Decides (allOfFilters doc fs) (EveryOf doc fs)
  | [] => .ok (iff_of_true rfl trivial)
  | f :: fs => by
    rw [allOfFilters, EveryOf]
    exact .and (decides_filter doc f) (decides_everyOf doc fs)
termination_by structural fs => fs

end

/-! ### Documents of operators -/

/-- Every key names an operator, and there is one. -/
def AreOperators (es : Entries) : Prop :=
  es ≠ [] ∧ ∀ e ∈ es, ∃ s : String, e.1 = .text s ∧ ['$'] <+: s.toList

theorem AreOperators.perm {es' : Entries} (h : AreOperators es) (hp : es.Perm es') :
    AreOperators es' := by
  refine ⟨fun none => h.1 ?_, fun e he => h.2 e (hp.mem_iff.2 he)⟩
  rw [none] at hp
  exact hp.eq_nil

theorem AreOperators.isOperators {c : Value} (hc : c.entries? = some es) (h : AreOperators es) :
    isOperators c = .ok true := by
  obtain ⟨nonempty, names⟩ := h
  have all : allOperators es = .ok true := by
    clear hc nonempty
    induction es with
    | nil => rfl
    | cons e es ih =>
      rw [List.forall_mem_cons] at names
      obtain ⟨⟨s, hs, dollar⟩, names⟩ := names
      obtain ⟨k, x⟩ := e
      obtain rfl : k = .text s := hs
      rw [allOperators, if_pos (List.isPrefixOf_iff_prefix.2 dollar), ih names]
  rw [Query.isOperators, hc]
  cases es with
  | nil => exact absurd rfl nonempty
  | cons e es => exact all

/-- Whether one operator of a condition holds. -/
def checkEntry (value : Option Value) (e : Value × Value) : Test :=
  checkOperator (e.1.text?.getD "") value e.2

theorem checkCondition_operators {c : Value} (hc : c.entries? = some es) (h : AreOperators es)
    (value : Option Value) : checkCondition value c = allTrue (checkEntry value) es := by
  unfold checkCondition
  rw [h.isOperators hc, hc]
  rfl

/-! ### The order of writing -/

/-- Filters that differ in the order of writing. Fields may change places, so each other rule is
    about the first one: about the filters it combines, the operators of its condition, or the
    candidates of the first of these. -/
inductive Reordered : Entries → Entries → Prop
  | trans {es fs gs : Entries} (h : Reordered es fs) (h' : Reordered fs gs) : Reordered es gs
  | fields {es fs : Entries} (h : es.Perm fs) : Reordered es fs
  | filters {field c c' : Value} {fs gs : List Value} (hj : (junction? field).isSome = true)
    (hc : c.sequence? = some fs) (hc' : c'.sequence? = some gs) (h : fs.Perm gs) (es : Entries) :
    Reordered ((field, c) :: es) ((field, c') :: es)
  /-- The first of the filters is itself reordered. -/
  | within {field c c' f g : Value} {fs gs : Entries} {rest : List Value}
    (hj : (junction? field).isSome = true) (hc : c.sequence? = some (f :: rest))
    (hc' : c'.sequence? = some (g :: rest)) (hf : f.entries? = some fs) (hg : g.entries? = some gs)
    (h : Reordered fs gs) (es : Entries) : Reordered ((field, c) :: es) ((field, c') :: es)
  | operators {field c c' : Value} {os os' : Entries} (hj : junction? field = none)
    (hc : c.entries? = some os) (hc' : c'.entries? = some os') (ho : AreOperators os)
    (h : os.Perm os') (es : Entries) : Reordered ((field, c) :: es) ((field, c') :: es)
  | candidates {field c c' x y : Value} {op : String} {os : Entries} {xs ys : List Value}
    (hj : junction? field = none) (hop : op = "$in" ∨ op = "$nin")
    (hc : c.entries? = some ((.text op, x) :: os)) (hc' : c'.entries? = some ((.text op, y) :: os))
    (ho : AreOperators ((.text op, x) :: os)) (hx : x.items = .ok xs) (hy : y.items = .ok ys)
    (h : xs.Perm ys) (es : Entries) : Reordered ((field, c) :: es) ((field, c') :: es)

section

variable {field c c' : Value}

theorem fieldSays_junction (hj : (junction? field).isSome = true)
    (hsome : SomeSays doc c ↔ SomeSays doc c') (hevery : EverySays doc c ↔ EverySays doc c') :
    FieldSays doc field c ↔ FieldSays doc field c' := by
  unfold FieldSays
  split
  · exact hsome
  · exact hevery
  · exact not_congr hsome
  · next hnone =>
    rw [hnone] at hj
    contradiction

theorem fieldSays_condition (hj : junction? field = none)
    (h : ∀ v, checkCondition v c = .ok true ↔ checkCondition v c' = .ok true) :
    FieldSays doc field c ↔ FieldSays doc field c' := by
  unfold FieldSays
  rw [hj]
  cases fieldValue? doc field with
  | error e => rfl
  | ok v => exact h v

theorem checkCondition_operators_eq_true {os : Entries} (hc : c.entries? = some os)
    (ho : AreOperators os) (value : Option Value) :
    checkCondition value c = .ok true ↔ ∀ e ∈ os, checkEntry value e = .ok true := by
  rw [checkCondition_operators hc ho, allTrue_eq_true]

end

theorem isAmong_perm {value : Option Value} {x y : Value} {xs ys : List Value}
    (hx : x.items = .ok xs) (hy : y.items = .ok ys) (h : xs.Perm ys) :
    isAmong value x = isAmong value y := by
  rw [isAmong, isAmong, candidates, candidates, hx, hy]
  exact congrArg Except.ok (h.any_eq)

/-- Reordered filters say the same of every document. -/
theorem Reordered.meaning {fs : Entries} (h : Reordered es fs) :
    (∀ e ∈ es, FieldSays doc e.1 e.2) ↔ ∀ e ∈ fs, FieldSays doc e.1 e.2 := by
  have first {field c c' : Value} {es : Entries} (h : FieldSays doc field c ↔ FieldSays doc field c') :
      (∀ e ∈ (field, c) :: es, FieldSays doc e.1 e.2)
        ↔ ∀ e ∈ (field, c') :: es, FieldSays doc e.1 e.2 := by
    rw [List.forall_mem_cons, List.forall_mem_cons, h]
  induction h with
  | trans _ _ ih ih' => exact ih.trans ih'
  | fields h => simp only [h.mem_iff]
  | filters hj hc hc' h es =>
    refine first (fieldSays_junction hj ?_ ?_)
    · simp only [someSays_iff hc, someSays_iff hc', h.mem_iff]
    · simp only [everySays_iff hc, everySays_iff hc', h.mem_iff]
  | @within field c c' f g fs gs rest hj hc hc' hf hg _ es ih =>
    have same : Says doc f ↔ Says doc g := (says_iff hf).trans (ih.trans (says_iff hg).symm)
    refine first (fieldSays_junction hj ?_ ?_)
    · simp only [someSays_iff hc, someSays_iff hc', List.mem_cons, exists_eq_or_imp, same]
    · simp only [everySays_iff hc, everySays_iff hc', List.forall_mem_cons, same]
  | operators hj hc hc' ho h es =>
    refine first (fieldSays_condition hj fun v => ?_)
    rw [checkCondition_operators_eq_true hc ho, checkCondition_operators_eq_true hc' (ho.perm h)]
    simp only [h.mem_iff]
  | @candidates field c c' x y op os xs ys hj hop hc hc' ho hx hy h es =>
    have ho' : AreOperators ((.text op, y) :: os) := by
      obtain ⟨-, names⟩ := ho
      rw [List.forall_mem_cons] at names
      exact ⟨List.cons_ne_nil _ _, List.forall_mem_cons.2 names⟩
    refine first (fieldSays_condition hj fun v => ?_)
    have among : checkEntry v (.text op, x) = checkEntry v (.text op, y) := by
      have same : isAmong v x = isAmong v y := isAmong_perm hx hy h
      rcases hop with rfl | rfl
      · exact same
      · exact congrArg Query.negated same
    rw [checkCondition_operators_eq_true hc ho, checkCondition_operators_eq_true hc' ho',
      List.forall_mem_cons, List.forall_mem_cons, among]

/-! ### Laws -/

/-- The condition of a single operator is just that operator. -/
theorem matchesFilter_operator {field : Value} (hj : junction? field = none) {op : String}
    (hop : ['$'] <+: op.toList) (x : Value) :
    matchesFilter doc (.map [(field, .map [(.text op, x)])])
      = fieldValue? doc field >>= (checkOperator op · x) := by
  have operators : AreOperators [(.text op, x)] :=
    ⟨List.cons_ne_nil _ _, List.forall_mem_singleton.2 ⟨op, rfl, hop⟩⟩
  rw [matchesFilter_single, testField, hj]
  refine bind_congr fun v => ?_
  rw [checkCondition_operators rfl operators]
  exact last_test (checkOperator op v x)

/-- An operator that negates another one on every value. -/
theorem matchesFilter_negated {field : Value} (hj : junction? field = none) {op op' : String}
    (hop : ['$'] <+: op.toList) (hop' : ['$'] <+: op'.toList) (x : Value)
    (h : ∀ v, checkOperator op' v x = negated (checkOperator op v x)) :
    matchesFilter doc (.map [(field, .map [(.text op', x)])])
      = negated (matchesFilter doc (.map [(field, .map [(.text op, x)])])) := by
  rw [matchesFilter_operator hj hop, matchesFilter_operator hj hop']
  cases fieldValue? doc field with
  | error e => rfl
  | ok v => exact h v

/-- A filter for values that equal one candidate. -/
def equalTo (field candidate : Value) : Value := .map [(field, .map [(.text "$eq", candidate)])]

/-- Some candidate equals the field just if the field is among them. -/
theorem anyOfFilters_equalTo {field : Value} (hj : junction? field = none) {v : Option Value}
    (hv : fieldValue? doc field = .ok v) (cs : List Value) :
    anyOfFilters doc (cs.map (equalTo field)) = .ok (cs.any (equals v)) := by
  induction cs with
  | nil => rfl
  | cons c cs ih =>
    have one : matchesFilter doc (equalTo field c) = .ok (equals v c) := by
      rw [equalTo, matchesFilter_operator hj (by decide), hv]
      rfl
    rw [List.map_cons, anyOfFilters, one, ih, List.any_cons]
    cases equals v c <;> rfl

/-- A filter of several fields asks for all that filters of the single fields ask for. -/
theorem matchesEntries_eq_allOfFilters (doc : Value) (es : Entries) :
    matchesEntries doc es = allOfFilters doc (es.map fun e => .map [e]) := by
  induction es with
  | nil => rfl
  | cons e es ih =>
    obtain ⟨field, condition⟩ := e
    rw [matchesEntries_cons, ih, List.map_cons, allOfFilters, matchesFilter_single]

/-- Of the tests that succeed, none depends on the order in which a filter is written; `$nor`
    negates `$or`, `$ne` negates `$eq` and `$nin` negates `$in`; to be among candidates is to equal
    one of them; and the fields of a filter are a conjunction. -/
theorem filters_are_boolean (doc : Value) :
    (∀ f g es fs, f.entries? = some es → g.entries? = some fs → Reordered es fs →
      ∀ a b, matchesFilter doc f = .ok a → matchesFilter doc g = .ok b → a = b) ∧
    (∀ fs, matchesFilter doc (.map [(.text "$nor", fs)])
      = negated (matchesFilter doc (.map [(.text "$or", fs)]))) ∧
    (∀ field, junction? field = none →
      (∀ x, matchesFilter doc (.map [(field, .map [(.text "$ne", x)])])
        = negated (matchesFilter doc (.map [(field, .map [(.text "$eq", x)])]))) ∧
      (∀ x, matchesFilter doc (.map [(field, .map [(.text "$nin", x)])])
        = negated (matchesFilter doc (.map [(field, .map [(.text "$in", x)])]))) ∧
      ∀ x cs, x.items = .ok cs → ∀ a b,
        matchesFilter doc (.map [(field, .map [(.text "$in", x)])]) = .ok a →
        matchesFilter doc (.map [(.text "$or",
          .list (cs.map fun c => .map [(field, .map [(.text "$eq", c)])]))]) = .ok b → a = b) ∧
    ∀ f es, f.entries? = some es → matchesFilter doc f
      = matchesFilter doc (.map [(.text "$and", .list (es.map fun e => .map [e]))]) := by
  refine ⟨?_, ?_, fun field hj => ⟨?_, ?_, ?_⟩, ?_⟩
  · intro f g es fs hf hg h a b ha hb
    have same : Says doc f ↔ Says doc g := (says_iff hf).trans (h.meaning.trans (says_iff hg).symm)
    exact ((decides_filter doc f).congr same).agree (decides_filter doc g) ha hb
  · intro fs
    rw [matchesFilter_single, matchesFilter_single]
    rfl
  · exact fun x => matchesFilter_negated hj (by decide) (by decide) x fun v => rfl
  · exact fun x => matchesFilter_negated hj (by decide) (by decide) x fun v => rfl
  · intro x cs hx a b ha hb
    rw [matchesFilter_operator hj (by decide)] at ha
    rw [matchesFilter_single] at hb
    cases hv : fieldValue? doc field with
    | error e =>
      rw [hv] at ha
      contradiction
    | ok v =>
      have among : checkOperator "$in" v x = .ok (cs.any (equals v)) := by
        change isAmong v x = _
        rw [isAmong, candidates, hx]
        rfl
      have equal : anyOfFilters doc (cs.map (equalTo field)) = .ok b := hb
      rw [hv] at ha
      rw [anyOfFilters_equalTo hj hv] at equal
      exact Except.ok.inj ((ha.symm.trans among).trans equal)
  · intro f es hf
    have fields : matchesFilter doc f = matchesEntries doc es := by cases f <;> cases hf <;> rfl
    rw [matchesFilter_single, fields, matchesEntries_eq_allOfFilters]
    rfl

namespace Tagged

/-- A document with a name and two tags. -/
def tagged : Value := .map [(.text "name", .text "a"), (.text "tags", .list [.int 1, .int 2])]

def byTags (tags : List Value) : Value := .map [(.text "tags", .map [(.text "$in", .list tags)])]

def byName : Value × Value := (.text "name", .text "a")

/-- The name is `a`, and there is a tag 2 or 3, or the name is `b`; in two orders. -/
theorem filters_are_boolean_tagged :
    (∃ a b, matchesFilter tagged (.map [(.text "$or", .list [byTags [.int 3, .int 2],
        .map [(.text "name", .text "b")]]), byName]) = .ok a ∧
      matchesFilter tagged (.map [byName, (.text "$or", .list [.map [(.text "name", .text "b")],
        byTags [.int 2, .int 3]])]) = .ok b ∧ a = b) ∧
    (∃ a b, matchesFilter tagged (byTags [.int 2, .int 3]) = .ok a ∧
      matchesFilter tagged (.map [(.text "$or",
        .list [equalTo (.text "tags") (.int 2), equalTo (.text "tags") (.int 3)])]) = .ok b ∧ a = b) ∧
    matchesFilter tagged (.map [byName, (.text "tags", .int 2)]) =
      matchesFilter tagged (.map [(.text "$and",
        .list [.map [byName], .map [(.text "tags", .int 2)]])]) := by
  obtain ⟨order, -, laws, fields⟩ := filters_are_boolean tagged
  obtain ⟨-, -, among⟩ := laws (.text "tags") rfl
  refine ⟨⟨true, true, ?_⟩, ⟨true, true, ?_⟩, fields _ [byName, (.text "tags", .int 2)] rfl⟩
  · have operators : AreOperators [(.text "$in", .list [.int 3, .int 2])] :=
      ⟨List.cons_ne_nil _ _, List.forall_mem_singleton.2 ⟨"$in", rfl, by decide⟩⟩
    have reordered : Reordered
        [(.text "$or", .list [byTags [.int 3, .int 2], .map [(.text "name", .text "b")]]), byName]
        [byName, (.text "$or", .list [.map [(.text "name", .text "b")], byTags [.int 2, .int 3]])] :=
      .trans (.within rfl rfl rfl rfl rfl
        (.candidates rfl (.inl rfl) rfl rfl operators rfl rfl (.swap _ _ _) []) _)
        (.trans (.filters (c := .list _) rfl rfl rfl (.swap _ _ _) _) (.fields (.swap _ _ _)))
    have first : matchesFilter tagged (.map [(.text "$or", .list [byTags [.int 3, .int 2],
        .map [(.text "name", .text "b")]]), byName]) = .ok true := by with_unfolding_all rfl
    have second : matchesFilter tagged (.map [byName, (.text "$or",
        .list [.map [(.text "name", .text "b")], byTags [.int 2, .int 3]])]) = .ok true := by
      with_unfolding_all rfl
    exact ⟨first, second, order _ _ _ _ rfl rfl reordered _ _ first second⟩
  · have first : matchesFilter tagged (byTags [.int 2, .int 3]) = .ok true := by
      with_unfolding_all rfl
    have second : matchesFilter tagged (.map [(.text "$or",
        .list [equalTo (.text "tags") (.int 2), equalTo (.text "tags") (.int 3)])]) = .ok true := by
      with_unfolding_all rfl
    exact ⟨first, second, among _ [.int 2, .int 3] rfl _ _ first second⟩

end Tagged

end LinkedDocs.Query
