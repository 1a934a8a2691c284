import LinkedDocs.Proofs.ProxyMethods
import LinkedDocs.Proofs.Requests
import LinkedDocs.Proofs.StoreRuns

/-! A lazy reference is the reference loaded at its first use.

    A property and its lazy twin load in the same way; the twin only does it later. Until an attempt
    has success, the proxy holds on to that one computation, so each attempt is what resolving at
    once would be on the store as it is then. After the first success the proxy holds the target,
    and no insertion reaches it any more. -/

namespace LinkedDocs

variable {σ τ : Type}

/-! ### Laziness changes nothing but the moment -/

namespace Property

variable (p : Property) (b : Bool)

theorem isLazy_withLazy : (p.withLazy b).isLazy = b := by
  rcases p with ⟨_, _, _, _, _, _, _ | _ | _⟩ <;> rfl

theorem branches_withLazy (l : Lookup) (vs : List Value) :
    (p.withLazy b).branches { l with isLazy := b } vs = p.branches l vs := by
  induction vs with
  | nil => rfl
  | cons v vs ih =>
    rw [branches, branches, ih]
    rfl

theorem isTemplated_withLazy : (p.withLazy b).isTemplated = p.isTemplated := by
  rcases p with ⟨_, _, _, _, _, _, _ | _ | _⟩ <;> rfl

theorem filter_withLazy (value : Value) : (p.withLazy b).filter value = p.filter value := by
  rw [filter, filter, isTemplated_withLazy]
  split
  · cases hlink : p.link with
    | lookup l =>
      have htwin : (p.withLazy b).link = .lookup { l with isLazy := b } := by rw [withLazy, hlink]
      have hmulti : (p.withLazy b).isMulti = p.isMulti := rfl
      simp only [lookupFilter, requiredLookup, hlink, htwin, hmulti, bind, Except.bind,
        branches_withLazy]
      rfl
    | pointer o =>
      next h =>
      rw [isTemplated, hlink] at h
      contradiction
  · rfl

theorem singleContext_withLazy (value : Value) :
    (p.withLazy b).singleContext value = p.singleContext value := by
  cases hlink : p.link with
  | lookup l =>
    have htwin : (p.withLazy b).link = .lookup { l with isLazy := b } := by rw [withLazy, hlink]
    simp only [singleContext, hlink, htwin]
    rfl
  | pointer o =>
    cases o with
    | none =>
      have htwin : (p.withLazy b).link = .pointer (some ⟨"", b⟩) := by rw [withLazy, hlink]
      simp only [singleContext, hlink, htwin]
      rfl
    | some o =>
      have htwin : (p.withLazy b).link = .pointer (some { o with isLazy := b }) := by
        rw [withLazy, hlink]
      simp only [singleContext, hlink, htwin]
      rfl

theorem context_withLazy (value : Value) : (p.withLazy b).context value = p.context value := by
  simp only [context, singleContext_withLazy]
  rfl

theorem load_withLazy (value : Value) (loader : Loader σ) (convert : Converter σ) :
    (p.withLazy b).load value loader convert = p.load value loader convert := by
  have hcollect (f : Value) (docs : List Value) :
      (p.withLazy b).collect convert value f docs = p.collect convert value f docs := by
    simp only [collect, arrange, isTemplated_withLazy]
    rfl
  simp only [load, read, filter_withLazy, context_withLazy, hcollect]
  rfl

end Property

namespace Pool

/-! ### One attempt -/

/-- A proxy of the pool: it still has to make the attempt, or holds what was found. -/
def Stands (pool : Pool σ) (id : Nat) (property : String) (source : Value) (attempt : Run σ Value)
    (found : Option Value) : Prop :=
  pool.proxies[id]? =
    some ⟨property, source, found.elim (.deferred attempt) fun v => .resolved v none⟩

variable {pool : Pool σ} {id : Nat} {property : String} {source : Value} {attempt : Run σ Value}
  {found : Option Value}

theorem stands_defer (pool : Pool σ) (property : String) (source : Value) (attempt : Run σ Value) :
    (pool.defer property source attempt).1.Stands pool.proxies.length property source attempt
      none := by
  simp [Stands, defer]

/-- An attempt works on the world as it is, and what it finds is kept. -/
theorem unwrap_attempt (h : pool.Stands id property source attempt none) :
    ∃ next : Pool σ, (unwrap id).exec pool = ((attempt.exec pool.world).1, next) ∧
      next.world = (attempt.exec pool.world).2 ∧
      next.Stands id property source attempt (attempt.exec pool.world).1.toOption := by
  have hp : pool.proxies[id]? = some ⟨property, source, .deferred attempt⟩ := h
  rw [unwrap, Run.exec_of, hp]
  rcases hrun : attempt.exec pool.world with ⟨r, w⟩
  cases r <;> simp [Association.load, hrun, Stands, setAssociation, hp, Except.toOption]

/-- A target that was found is given again, and nothing else is done. -/
theorem unwrap_found {v : Value} (h : pool.Stands id property source attempt (some v)) :
    (unwrap id).exec pool = (.ok v, pool) := by
  have hp : pool.proxies[id]? = some ⟨property, source, .resolved v none⟩ := h
  -- The association is written back as it was read.
  have hsame : pool.proxies.modify id (fun p => { p with association := .resolved v none })
      = pool.proxies := by
    refine List.ext_getElem? fun j => ?_
    rw [List.getElem?_modify]
    by_cases hj : id = j
    · subst hj
      rw [hp]
      simp
    · simp [hj]
  rw [unwrap, Run.exec_of, hp]
  simp only [Association.load, setAssociation, hsame]

/-- What needs no target changes nothing. -/
theorem perform_passive {m : Method} (hm : m.isPassive = true) (pool : Pool σ) (id : Nat) :
    ((m.perform id).exec pool).2 = pool := by
  cases hp : pool.proxies[id]? with
  | none => rw [m.exec_perform_missing hp]
  | some p => rw [m.exec_perform hp, m.on_passive hm hp]

end Pool

/-! ### Any course of events -/

/-- A store, what the converter knows, and the questions that were put to the store's loader. -/
abbrev Archive (τ : Type) := Watched (Store × τ) LoaderCall

def Archive.loader : Loader (Archive τ) := (Loader.ofStore Prod.fst).watched

namespace Pool

/-- What can happen to a store and a proxy over it. -/
inductive Event where
  | insert (call : Store.Step)
  /-- Some proxy is asked for something that needs no target. -/
  | passive (id : Nat) (m : Method) (h : m.isPassive = true)
  | unwrap

/-- The pool after an event; `id` is the proxy that is unwrapped. -/
def happen (id : Nat) (pool : Pool (Archive τ)) : Event → Pool (Archive τ)
  | .insert call =>
    { pool with world.state := (pool.world.state.1.perform call, pool.world.state.2) }
  | .passive j m _ => ((m.perform j).exec pool).2
  | .unwrap => ((unwrap id).exec pool).2

/-- The pool after a course of events. -/
def after (id : Nat) (pool : Pool (Archive τ)) (es : List Event) : Pool (Archive τ) :=
  es.foldl (happen id) pool

/-- The outcome of an event that is an attempt. -/
def outcome? (id : Nat) (pool : Pool (Archive τ)) : Event → Option (Except Failure Value)
  | .unwrap => some ((unwrap id).exec pool).1
  | .insert _ | .passive .. => none

/-- What the first attempt with success gives, if there is one. -/
def firstFound (id : Nat) (pool : Pool (Archive τ)) : List Event → Option Value
  | [] => none
  | e :: es =>
    ((outcome? id pool e).bind Except.toOption).or (firstFound id (happen id pool e) es)

variable {id : Nat} {pool : Pool (Archive τ)} {property : String} {source : Value}
  {attempt : Run (Archive τ) Value} {found : Option Value}

/-- An event leaves the proxy as it is, unless it is an attempt that finds the target first. -/
theorem Stands.happen (h : pool.Stands id property source attempt found) (e : Event) :
    (pool.happen id e).Stands id property source attempt
      (found.or ((pool.outcome? id e).bind Except.toOption)) := by
  cases e with
  | insert call =>
    rw [outcome?, Option.bind_none, Option.or_none]
    exact h
  | passive j m hm =>
    rw [Pool.happen, perform_passive hm, outcome?, Option.bind_none, Option.or_none]
    exact h
  | unwrap =>
    rw [Pool.happen, outcome?]
    cases found with
    | none =>
      obtain ⟨next, hrun, -, hnext⟩ := unwrap_attempt h
      rw [hrun]
      exact hnext
    | some v =>
      rw [unwrap_found h]
      exact h

/-- So the proxy holds what the first attempt with success gave. -/
theorem Stands.after (h : pool.Stands id property source attempt found) (es : List Event) :
    (pool.after id es).Stands id property source attempt (found.or (pool.firstFound id es)) := by
  induction es generalizing pool found with
  | nil =>
    rw [firstFound, Option.or_none]
    exact h
  | cons e es ih =>
    rw [firstFound, ← Option.or_assoc]
    exact ih (h.happen e)

/-- Resolving the lazy twin of a property gives a proxy and puts no question to the loader. Whatever
    happens then: as long as no attempt had success, an attempt has the outcome that resolving the
    property at once would have on the store as it is, and does the same to the world, the questions
    to the loader included. Once an attempt had success, the proxy gives what was found then, and
    does nothing else. -/
theorem lazy_twin_loads_at_first_use {p : Property} (heager : p.isLazy = false) (value : Value)
    (convert : Converter (Archive τ)) (pool : Pool (Archive τ)) :
    ∃ start : Pool (Archive τ),
      (resolve (p.withLazy true) value Archive.loader convert).exec pool
        = (.ok (.deferred pool.proxies.length p.name value), start) ∧
      start.world = pool.world ∧
      ∀ es : List Event, match start.firstFound pool.proxies.length es with
        | none => ∃ r w next,
          (resolve p value Archive.loader convert).exec (start.after pool.proxies.length es)
            = (r, { start.after pool.proxies.length es with world := w }) ∧
          (unwrap pool.proxies.length).exec (start.after pool.proxies.length es) = (r, next) ∧
          next.world = w
        | some v => (unwrap pool.proxies.length).exec (start.after pool.proxies.length es)
          = (.ok v, start.after pool.proxies.length es) := by
  have hstart : (resolve (p.withLazy true) value Archive.loader convert).exec pool
      = (.ok (.deferred pool.proxies.length p.name value),
        (pool.defer p.name value (p.load value Archive.loader convert)).1) := by
    rw [resolve, if_pos (p.isLazy_withLazy true), p.load_withLazy]
    rfl
  refine ⟨_, hstart, rfl, ?_⟩
  intro es
  -- The twin holds the very computation that resolving at once runs.
  have stands := (stands_defer pool p.name value (p.load value Archive.loader convert)).after es
  rw [Option.none_or] at stands
  split
  · next hnone =>
    rw [hnone] at stands
    obtain ⟨next, hrun, hworld, -⟩ := unwrap_attempt stands
    refine ⟨_, _, next, ?_, hrun, hworld⟩
    rw [resolve, heager]
    rfl
  · next v hv =>
    rw [hv] at stands
    exact unwrap_found stands

end Pool

namespace Pointed

/-- A book that is referred to by its identifier. -/
def book : Property := ⟨"book", "book", .mapping none, "book", false, false, .pointer none⟩

def firstEdition : Value := .map [(.text "_id", .int 1), (.text "year", .int 1987)]

def atStart : Pool (Archive Unit) := ⟨[], ⟨(.empty (.text "library") .null, ()), []⟩⟩

/-- The book is inserted after the reference was resolved, and found when the proxy is used. -/
def arrives : Pool.Event := .insert (.insert (.text "book") firstEdition .null)

/-- The library with the book in it, after some questions to its loader. -/
def stocked (calls : List LoaderCall) : Archive Unit :=
  ⟨(⟨.text "library", .null, [⟨.text "library", .text "book", firstEdition⟩]⟩, ()), calls⟩

def question : LoaderCall := ⟨.one, ⟨.null, .text "book", .null⟩, .map [(.text "_id", .int 1)]⟩

theorem load_stocked : (book.load (.int 1) Archive.loader pure).exec (stocked [])
    = (.ok firstEdition, stocked [question]) := by
  with_unfolding_all rfl

theorem unwrap_after_arrival : book.isLazy = false ∧ ∃ start : Pool (Archive Unit),
    (Pool.resolve (book.withLazy true) (.int 1) Archive.loader pure).exec atStart
      = (.ok (.deferred 0 "book" (.int 1)), start) ∧ start.world.requests = [] ∧
    ((Pool.unwrap 0).exec (start.after 0 [arrives])).1 = .ok firstEdition ∧
    ((Pool.unwrap 0).exec (start.after 0 [arrives])).2.world.requests = [question] := by
  obtain ⟨start, hstart, hworld, huse⟩ :=
    Pool.lazy_twin_loads_at_first_use (p := book) rfl (.int 1) pure atStart
  obtain ⟨r, w, next, heager, hunwrap, hnext⟩ := huse [arrives]
  have hstocked : (start.after 0 [arrives]).world = stocked [] := by
    change (⟨_, start.world.requests⟩ : Archive Unit) = _
    rw [hworld]
    rfl
  have hload : (Pool.resolve book (.int 1) Archive.loader pure).exec (start.after 0 [arrives])
      = (.ok firstEdition, { start.after 0 [arrives] with world := stocked [question] }) := by
    rw [Pool.resolve, if_neg nofun, Pool.onWorld, Run.exec_of, hstocked, load_stocked]
  obtain ⟨rfl, hpool⟩ := Prod.mk.inj (hload.symm.trans heager)
  obtain rfl : stocked [question] = w := congrArg Pool.world hpool
  have hrun : (Pool.unwrap 0).exec (start.after 0 [arrives]) = (.ok firstEdition, next) := hunwrap
  refine ⟨rfl, start, hstart, by rw [hworld]; rfl, ?_⟩
  rw [hrun, hnext]
  exact ⟨rfl, rfl⟩

end Pointed

end LinkedDocs
