import LinkedDocs.Lazy.Proxy
import LinkedDocs.Value.Attribute
import LinkedDocs.Value.Method
import LinkedDocs.Value.Operator

/-! What can be done with a proxy.

    Passive operations never load: what the proxy is for, whether it is loaded, its shown form, and
    whether two proxies stand for the same reference. Every other operation loads the target and
    does to it what was asked of the proxy. Operands that are proxies are loaded, too. Operators
    that update in place put their result into the proxy. -/

namespace LinkedDocs.Pool

variable {σ : Type}

/-! ### Passive operations -/

/-- What is known of a proxy without loading it. -/
inductive Passive where
  | isResolved
  | source
  | property
  deriving DecidableEq, Repr

def passive (q : Passive) (id : Nat) : Use σ Value := do
  let pool ← get
  match pool.proxies[id]? with
  | none => Run.value (.error .attribute)
  | some p =>
    match q with
    | .isResolved => pure (.bool p.association.isResolved)
    | .source => pure p.source
    | .property => pure (.text p.property)

/-- The shown form of a value, a proxy by what is known of it. -/
def showing (v : Value) : Use σ Value := do
  let pool ← get
  pure (.text (pool.shown v))

/-- Whether a value equals itself; the undefined double does not. -/
def equalsItself : Value → Bool
  | .float x => x == x
  | _ => true

/-- Whether a proxy stands for the same reference as another value: a proxy of the same property
    with an equal stored value. -/
def sameReference (id : Nat) (property : String) (source v : Value) : Bool :=
  match v with
  | .deferred other q w =>
    property == q && (if id == other then equalsItself source else source.equal w)
  | _ => false

/-- Whether a proxy has the hash of a value: that of its property's name. -/
def sameHash (property : String) (v : Value) : Except Misuse Bool :=
  match v with
  | .text s => .ok (s == property)
  | .deferred _ q _ => .ok (q == property)
  | v => if v.hashable then .ok false else .error .type

/-! ### Conversions -/

/-- Questions and conversions without an operand. -/
inductive Conversion where
  | truth | size | text | toInt | toFloat | toIndex | items | reversed
  | unary (op : Value.UnaryOperator)
  deriving DecidableEq, Repr

/-- The answer for a target; `plain` is its text. -/
def convertTarget (plain : Value → String) (c : Conversion) (v : Value) : Except Misuse Value :=
  match c with
  | .truth => .ok (.bool v.truthy)
  | .size => v.size.map fun n => .int n
  | .text => (v.writtenAs plain).map .text
  | .toInt => v.toInt.map .int
  | .toFloat => v.toFloat.map .float
  | .toIndex => v.toIndex.map .int
  | .items => v.items.map .list
  | .reversed => v.reversedItems.map .list
  | .unary op => v.applyUnary op

/-- Converts a value, a proxy by its target. -/
def convert (c : Conversion) (v : Value) : Use σ Value := do
  let v ← strip v
  let pool ← get
  Run.value (convertTarget (Value.plainWith (pool.shownTarget (pool.proxies.length + 1))) c v)

/-! ### Operators -/

/-- A comparison or an arithmetic operator. -/
inductive Infix where
  | compare (c : Value.Comparison)
  | arithmetic (op : Value.Operator)
  deriving DecidableEq, Repr

def Infix.apply (op : Infix) (v w : Value) : Except Misuse Value :=
  match op with
  | .compare c => (Value.compareBy c v w).map .bool
  | .arithmetic o => Value.apply o v w

/-- The value behind a chain of loaded proxies, of which `depth` are followed. -/
def target (pool : Pool σ) : (depth : Nat) → Value → Except Value.Formatting.Stop Value
  | depth + 1, .deferred id _ _ =>
    match pool.proxies[id]?.bind fun p => p.association.target? with
    | some v => pool.target depth v
    | none => .error (.unloaded id)
  | _, v => .ok v

/-- How values appear in a text that they are put into. -/
def view (pool : Pool σ) : Value.Formatting.View where
  target := pool.target (pool.proxies.length + 1)
  shown := pool.shown
  plain := Value.plainWith (pool.shownTarget (pool.proxies.length + 1))

/-- A text with values put into it. Each proxy is loaded when the text asks for it, `fuel` of
    them. -/
def format : (fuel : Nat) → (v arguments : Value) → Use σ Value
  | 0, v, arguments => do
    let pool ← get
    match Value.Formatting.apply pool.view v arguments with
    | .ok r => pure r
    | .error (.misuse m) => Run.value (.error m)
    | .error (.unloaded _) => Run.value (.error .type)
  | fuel + 1, v, arguments => do
    let pool ← get
    match Value.Formatting.apply pool.view v arguments with
    | .ok r => pure r
    | .error (.misuse m) => Run.value (.error m)
    | .error (.unloaded id) => do
      let _ ← unwrap id
      format fuel v arguments

/-- Whether the operator puts its right operand into a text on the left. -/
def Infix.fills (op : Infix) (v : Value) : Bool :=
  op == .arithmetic .mod && Value.Formatting.isTemplate v

/-- An operator between two operands, of which `depth` layers are removed. The proxy on the left is
    loaded first, and then, one layer each time, the one on the right; what is put into a text is
    loaded where the text asks for it. -/
def operateFrom (op : Infix) : (depth : Nat) → (v w : Value) → Use σ Value
  | 0, v, w => Run.value (op.apply v w)
  | depth + 1, v, w =>
    match v, w with
    | .deferred id _ _, w => do
      let a ← unwrap id
      let b ← unwrapped w
      operateFrom op depth a b
    | v, w =>
      if op.fills v then do
        let pool ← get
        format pool.proxies.length v w
      else
        match w with
        | .deferred id _ _ => do
          let b ← unwrap id
          operateFrom op depth v b
        | w => Run.value (op.apply v w)

/-- Whether two values are equal, of which any may be a proxy: what counts is which reference it
    stands for. -/
def sameValue (v w : Value) : Bool :=
  match v, w with
  | .deferred id p s, w => sameReference id p s w
  | v, .deferred id p s => sameReference id p s v
  | v, w => v.equal w

/-- An operator between two operands of which any may be a proxy. Equality asks whether they stand
    for the same reference and loads nothing. -/
def operate (op : Infix) (v w : Value) : Use σ Value :=
  match op with
  | .compare .eq => pure (.bool (sameValue v w))
  | .compare .ne => pure (.bool (!sameValue v w))
  | op => do
    let pool ← get
    operateFrom op (2 * pool.proxies.length + 1) v w

/-- An operator whose right operand is the proxy: the left operand is loaded first. -/
def reflect (op : Value.Operator) (id : Nat) (w : Value) : Use σ Value := do
  let a ← unwrapped w
  let b ← unwrap id
  operate (.arithmetic op) a b

/-- What an operator in place does to its left operand. -/
inductive Update where
  /-- The operand itself changes its content. -/
  | changed (v : Value)
  /-- Another value takes its place. -/
  | replaced (v : Value)
  /-- The operand itself changes its content, and then the operator fails. -/
  | broken (v : Value) (fault : Misuse)

/-- How the operator ends. -/
def Update.outcome : Update → Except Misuse Unit
  | .changed _ | .replaced _ => .ok ()
  | .broken _ fault => .error fault

/-- The result of a plain operator as an update; a set that can change does so. -/
def Update.ofResult (v result : Value) : Update :=
  match v with
  | .set false _ => .changed result
  | _ => .replaced result

/-- A mapping takes entries in turn, up to the first item that is none. -/
def takeEntries (v : Value) (es : Value.Entries) (w : Value) : Update :=
  match Conversion.entriesOf w with
  | .ok fs => .changed (v.withEntries (Value.Entries.update es fs))
  | .error m => .broken (v.withEntries (Value.Entries.update es (Conversion.leadingEntries w))) m

/-- The in-place form of an operator: lists take items of anything and are repeated, mappings take
    entries; every other value is replaced by the result of the plain operator, or takes it as its
    content. -/
def updateInPlace (op : Value.Operator) (v w : Value) : Except Misuse Update :=
  match op, v with
  | .add, .list xs => w.items.map fun ys => .changed (.list (xs ++ ys))
  | .mul, .list xs => w.toIndex.map fun n => .changed (.list (Value.repeated xs n))
  | .or, v =>
    match v.entries? with
    | some es => .ok (takeEntries v es w)
    | none => (Value.apply .or v w).map (Update.ofResult v)
  | op, v => (Value.apply op v w).map (Update.ofResult v)

/-- Asks for an attribute of what a value stands for. That there is none is no failure, even where
    it is what the attempt to load says. -/
def seekAttribute (v : Value) : Use σ Unit := do
  match ← Run.attempt (strip v) with
  | .ok _ | .error (.misuse .attribute) => pure ()
  | .error f => Run.lift (.error f)

/-- What an operator in place does to a value that is no proxy. A mapping takes the entries of a
    proxy, which is asked for its keys first; with any other proxy the result is that of the plain
    operator. -/
def updateOf (op : Value.Operator) (v w : Value) : Use σ Update :=
  match w with
  | .deferred .. =>
    if op = .or ∧ v.isMapping then do
      seekAttribute w
      let w ← strip w
      Run.value (updateInPlace op v w)
    else do
      let r ← operate (.arithmetic op) v w
      pure (.replaced r)
  | w => Run.value (updateInPlace op v w)

/-- The association after an update of its target. -/
def Update.apply (u : Update) : Association σ → Association σ :=
  match u with
  | .changed v | .broken v _ => .change v
  | .replaced v => .rebind v

/-- Updates the target `v` that a proxy holds. -/
def updateTarget (op : Value.Operator) (id : Nat) (v w : Value) : Use σ Unit := do
  let u ← updateOf op v w
  modifyAssociation id u.apply
  Run.value u.outcome

/-- Updates the target of a proxy; of a chain of proxies that of the last one, after `depth` links.
    The operand loses a layer at each link. -/
def updateFrom (op : Value.Operator) : (depth : Nat) → (id : Nat) → (w : Value) → Use σ Unit
  | 0, id, w => do
    let v ← unwrap id
    let b ← unwrapped w
    updateTarget op id v b
  | depth + 1, id, w => do
    let v ← unwrap id
    let b ← unwrapped w
    match v with
    | .deferred next _ _ => updateFrom op depth next b
    | v => updateTarget op id v b

/-- Whether the in-place form of an operator updates the proxy. -/
def updatesProxy (op : Value.Operator) : Bool :=
  op == .add || op == .sub || op == .mul || op == .or

/-- An operator in place. The first four update the proxy, whose target is given back; the others
    give their plain result. -/
def operateInPlace (op : Value.Operator) (id : Nat) (proxy w : Value) : Use σ (Bool × Value) :=
  if updatesProxy op then do
    let pool ← get
    updateFrom op pool.proxies.length id w
    let v ← unwrap id
    pure (true, v)
  else do
    let v ← operate (.arithmetic op) proxy w
    pure (false, v)

/-! ### Items -/

/-- A key for the target: where it is a position, a proxy counts as its target. -/
def keyFor (positional : Bool) (key : Value) : Use σ Value :=
  match key with
  | .deferred .. => if positional then strip key else pure key
  | key => pure key

def getItem (v key : Value) : Use σ Value := do
  let v ← strip v
  let key ← keyFor v.isPositional key
  Run.value (v.getItem key)

/-- Whether an item that is to change is looked for by position, though there may be none. -/
def writesByPosition (v : Value) : Bool := !v.isMapping && v.takesPosition

/-- Changes the target's content. -/
def modifyTarget (id : Nat) (f : Value → Use σ Value) : Use σ Unit := do
  let (h, v) ← holder id
  let v ← f v
  modifyAssociation h (Association.change v)

def setItem (id : Nat) (key item : Value) : Use σ Unit :=
  modifyTarget id fun v => do
    let key ← keyFor (writesByPosition v) key
    Run.value (v.setItem key item)

def deleteItem (id : Nat) (key : Value) : Use σ Unit :=
  modifyTarget id fun v => do
    let key ← keyFor (writesByPosition v) key
    Run.value (v.deleteItem key)

/-- What is looked for in a target. A byte string takes a proxy for a byte; that it is none, for
    whatever reason, is a misuse of types. -/
def itemFor (v item : Value) : Use σ Value :=
  match v, item with
  | .bytes .., .deferred .. => do
    let byte ← Run.attempt (strip item)
    match byte.toOption.bind Value.int? with
    | some n => pure (.int n)
    | none => Run.value (.error .type)
  | _, item => pure item

def contains (v item : Value) : Use σ Value := do
  let v ← strip v
  let item ← itemFor v item
  Run.value ((v.contains item).map .bool)

/-! ### Methods of the proxy itself -/

/-- The methods that a proxy has itself, next to its attributes. -/
inductive OwnMethod where
  | convert (c : Conversion)
  | operate (op : Infix)
  | reflect (op : Value.Operator)
  | update (op : Value.Operator)
  | item
  | setItem
  | deleteItem
  | contains
  | call
  | shown
  deriving DecidableEq, Repr

namespace OwnMethod

def operators : List (String × Value.Operator) :=
  [("add", .add), ("sub", .sub), ("mul", .mul), ("truediv", .div), ("floordiv", .floorDiv),
    ("mod", .mod), ("pow", .pow), ("and", .and), ("or", .or), ("xor", .xor)]

/-- The methods of an operator: with the proxy on the left, on the right, and in place. -/
def ofOperator (name : String) (op : Value.Operator) : List (String × OwnMethod) :=
  [(name, .operate (.arithmetic op)), ("r" ++ name, .reflect op)] ++
    if updatesProxy op then [("i" ++ name, .update op)] else []

def named : List (String × OwnMethod) :=
  [("bool", .convert .truth), ("len", .convert .size), ("str", .convert .text),
    ("int", .convert .toInt), ("float", .convert .toFloat), ("index", .convert .toIndex),
    ("neg", .convert (.unary .neg)), ("pos", .convert (.unary .pos)),
    ("abs", .convert (.unary .abs)), ("invert", .convert (.unary .invert)),
    ("lt", .operate (.compare .lt)), ("le", .operate (.compare .le)),
    ("gt", .operate (.compare .gt)), ("ge", .operate (.compare .ge)),
    ("getitem", .item), ("setitem", .setItem), ("delitem", .deleteItem), ("contains", .contains),
    ("call", .call), ("repr", .shown)] ++
    operators.flatMap fun (name, op) => ofOperator name op

/-- The full name of a special method. -/
def fullName (name : String) : String := "__" ++ name ++ "__"

def ofName? (name : String) : Option OwnMethod :=
  (named.find? fun m => name == fullName m.1).map (·.2)

end OwnMethod

/-! ### Attributes and calls -/

/-- The names of all methods that the class of proxies has, those that are never called by name
    included. -/
def methodNames : List String :=
  ["unwrap", "get_target", "_set_association"] ++
    (OwnMethod.named.map (·.1) ++ ["init", "getattr", "setattr", "delattr", "iter", "reversed", "eq",
      "hash", "reduce"]).map OwnMethod.fullName

/-- What the class of proxies has from that of all objects, by the type it shows. -/
def inherited : List (String × String) :=
  ["dir", "format", "getstate", "init_subclass", "new", "reduce_ex", "sizeof",
    "subclasshook"].map (OwnMethod.fullName ·, "builtin_function_or_method") ++
  ["getattribute", "ne"].map (OwnMethod.fullName ·, "method-wrapper")

/-- The proxy's own attributes, which hide those of the target. -/
def ownAttribute? (p : Proxy σ) (name : String) : Option Value :=
  match name with
  | "is_resolved" => some (.bool p.association.isResolved)
  | "source" | "_source" => some p.source
  | "descriptor" | "_descriptor" => some (.other "PropertyDescriptor")
  | "_association" => some (.other (if p.association.isResolved then "Resolved" else "Deferred"))
  | "__class__" => some (.kind Value.proxyType)
  | "__doc__" | "__module__" => some (.other "str")
  | "__slots__" => some (.tuple (["_association", "_descriptor", "_source"].map .text))
  | name =>
    if name ∈ methodNames then some (.other "method") else (inherited.lookup name).map .other

/-- The names of a proxy's own attributes; all others are looked for in its target. -/
def ownNames : List String :=
  ["is_resolved", "source", "_source", "descriptor", "_descriptor", "_association", "__class__",
    "__doc__", "__module__", "__slots__"] ++ (methodNames ++ inherited.map (·.1))

theorem ownAttribute?_isSome (p : Proxy σ) (name : String) :
    (ownAttribute? p name).isSome = decide (name ∈ ownNames) := by
  unfold ownAttribute?
  split
  iterate 10 exact (decide_eq_true (by simp [ownNames])).symm
  by_cases hm : name ∈ methodNames
  · simp [hm, ownNames]
  · have hlookup : (inherited.lookup name).isSome = decide (name ∈ inherited.map (·.1)) := by
      rw [Bool.eq_iff_iff, List.lookup_isSome_iff]
      simp
    rw [if_neg hm, Option.isSome_map, hlookup]
    exact decide_eq_decide.2 (by simp_all [ownNames])

/-- The own attribute of a value, if it is a proxy. -/
def proxyAttribute? (v : Value) (name : String) : Use σ (Option Value) :=
  match v with
  | .deferred id _ _ => do
    let p ← proxy? id
    pure (p.bind (ownAttribute? · name))
  | _ => pure none

def getAttribute (v : Value) (name : String) : Use σ Value := do
  match ← proxyAttribute? v name with
  | some x => pure x
  | none =>
    let v ← strip v
    match v.attribute? name with
    | some x => pure x
    | none => Run.value (.error .attribute)

def setAttribute (id : Nat) (name : String) (x : Value) : Use σ Unit :=
  modifyTarget id fun v => Run.value (v.setAttribute name x)

def deleteAttribute (id : Nat) (name : String) : Use σ Unit :=
  modifyTarget id fun v => Run.value (v.deleteAttribute name)

/-- Calls the target with positional and named arguments. -/
def call (v : Value) (args : List Value) (named : Value) : Use σ Value := do
  match ← strip v with
  | .function => pure (.list [.list args, named])
  | _ => Run.value (.error .type)

/-! ### Methods by name -/

/-- Loads all proxies among the values, one layer each. -/
def unwrapAll : List Value → Use σ Unit
  | [] => pure ()
  | v :: vs => do
    let _ ← unwrapped v
    unwrapAll vs

/-- Calls a method of the proxy itself. Methods that pass an operator on have loaded everything when
    a wrong number of operands is found out. -/
def callOwn (m : OwnMethod) (id : Nat) (proxy : Value) (args : List Value) : Use σ Value :=
  match m, args with
  | .convert c, [] => convert c proxy
  | .operate op, [w] => operate op proxy w
  | .reflect op, [w] => reflect op id w
  | .update op, [w] => do
    let _ ← operateInPlace op id proxy w
    pure proxy
  | .item, [key] => getItem proxy key
  | .setItem, [key, item] => do
    setItem id key item
    pure .null
  | .deleteItem, [key] => do
    deleteItem id key
    pure .null
  | .contains, [item] => contains proxy item
  | .call, args => call proxy args (.map [])
  | .shown, [] => showing proxy
  | .operate _, args | .convert (.unary _), args => do
    let _ ← unwrap id
    unwrapAll args
    Run.value (.error .type)
  | _, _ => Run.value (.error .type)

/-- Calls a method of the target. What the method did to it before a failure stands. -/
def callTarget (id : Nat) (name : String) (args : List Value) : Use σ Value := do
  let (h, v) ← holder id
  modifyAssociation h (Association.change (v.afterMethod name args))
  Run.value ((v.callMethod name args).map (·.result))

/-- Calls a method of the proxy or else of the target. -/
def callMethod (id : Nat) (name : String) (args : List Value) : Use σ Value :=
  if name = "unwrap" ∨ name = "get_target" then
    if args.isEmpty then unwrap id else Run.value (.error .type)
  else do
    match ← proxy? id with
    | none => Run.value (.error .attribute)
    | some p =>
      match OwnMethod.ofName? name, ownAttribute? p name with
      | some m, _ => callOwn m id (reference id p) args
      | none, some own => do
        let e ← Run.value ((Value.record [(name, own)]).callAttribute name args)
        pure e.result
      | none, none => callTarget id name args

/-! ### Copies -/

inductive CopyKind where
  | shallow
  | deep
  /-- Written down and read again. -/
  | serial
  deriving DecidableEq, Repr

/-- Whether copies of a value can be told apart from it. -/
def hasIdentity : Value → Bool
  | .list _ | .map _ | .mapping .. | .record _ | .entity .. => true
  | _ => false

mutual

/-- A copy all the way down, with every proxy replaced by a copy of its target; chains of proxies
    are followed `depth` times. Each proxy may be asked first whether its target can copy itself. -/
def deepCopyFrom (asks : Bool) (depth : Nat) (v : Value) : Use σ Value :=
  match v, depth with
  | .deferred id p s, depth + 1 => do
    if asks then seekAttribute (.deferred id p s)
    let v ← unwrap id
    deepCopyFrom asks depth v
  | .list xs, depth => do
    let xs ← deepCopyAll asks depth xs
    pure (.list xs)
  | .tuple xs, depth => do
    let xs ← deepCopyAll asks depth xs
    pure (.tuple xs)
  | .map es, depth => do
    let es ← deepCopyEntries asks depth es
    pure (.map es)
  | v, _ => pure v
termination_by (depth, sizeOf v)

def deepCopyAll (asks : Bool) (depth : Nat) : List Value → Use σ (List Value)
  | [] => pure []
  | x :: xs => do
    let x ← deepCopyFrom asks depth x
    let xs ← deepCopyAll asks depth xs
    pure (x :: xs)
termination_by xs => (depth, sizeOf xs)

def deepCopyEntries (asks : Bool) (depth : Nat) :
    List (Value × Value) → Use σ (List (Value × Value))
  | [] => pure []
  | (k, v) :: es => do
    let v ← deepCopyFrom asks depth v
    let es ← deepCopyEntries asks depth es
    pure ((k, v) :: es)
termination_by es => (depth, sizeOf es)

end

/-- The target, and whether it is the very object that was loaded: what a copy is made from. -/
def reduced (id : Nat) : Use σ (Value × Bool) := do
  let v ← unwrap id
  let isLoaded := ((← proxy? id).map fun p => p.association.holdsLoaded).getD false
  pure (v, isLoaded)

/-- A copy of the target, and whether it is the very object that was loaded. -/
def copy (kind : CopyKind) (id : Nat) : Use σ (Value × Bool) :=
  match kind with
  | .shallow => reduced id
  | kind => do
    match ← proxy? id with
    | none => Run.value (.error .attribute)
    | some p =>
      let pool ← get
      let v ← deepCopyFrom (kind == .deep) (pool.proxies.length + 2) (reference id p)
      pure (v, false)

/-- The proxies among the values in ascending order of their targets. -/
def sorted (vs : List (Nat × Value)) : Use σ (List (Nat × Value)) :=
  Sorting.sort (fun a b => do
    match ← operate (.compare .lt) a.2 b.2 with
    | .bool r => pure r
    | _ => pure false) vs

end LinkedDocs.Pool
