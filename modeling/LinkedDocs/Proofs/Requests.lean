import LinkedDocs.Reference.Resolving

/-! Requests of the code around.

    Looking up, converting and loading are done by code that is handed in. Watching it writes down
    each request, also one that fails, and changes nothing else: what the code gives and what it
    does to its own state is the same. -/

namespace LinkedDocs

variable {σ ρ α : Type}

/-- A state, and the requests that were made so far. -/
structure Watched (σ ρ : Type) where
  state : σ
  requests : List ρ

/-- The computation, which makes the given requests. -/
def watch (rs : List ρ) (x : Run σ α) : Run (Watched σ ρ) α := Run.of fun w =>
  ((x.exec w.state).1, ⟨(x.exec w.state).2, w.requests ++ rs⟩)

theorem exec_watch {rs : List ρ} {x : Run σ α} {s s' : σ} {r : Except Failure α}
    (h : x.exec s = (r, s')) (log : List ρ) :
    (watch rs x).exec ⟨s, log⟩ = (r, ⟨s', log ++ rs⟩) := by
  rw [watch, Run.exec_of, h]

def LookupFunction.watched (note : Context → Value → ρ) (lookup : LookupFunction σ) :
    LookupFunction (Watched σ ρ) := fun c f => watch [note c f] (lookup c f)

def Converter.watched (note : Value → List ρ) (convert : Converter σ) :
    Converter (Watched σ ρ) := fun d => watch (note d) (convert d)

/-- The loader, whose calls are written down. -/
def Loader.watched (loader : Loader σ) : Loader (Watched σ LoaderCall) where
  fetchOne c f := watch [⟨.one, c, f⟩] (loader.fetchOne c f)
  fetchMany c f := watch [⟨.many, c, f⟩] (loader.fetchMany c f)

/-- The question that a property puts to a loader. -/
def Property.callKind (p : Property) : LoaderCall.Kind := if p.isMulti || p.isMap then .many else .one

/-- Each lookup is one question to the loader. -/
theorem Property.lookupFunction_watched (p : Property) (loader : Loader σ) :
    p.lookupFunction loader.watched =
      (p.lookupFunction loader).watched fun c f => ⟨p.callKind, c, f⟩ := by
  funext c f
  cases h : p.isMulti || p.isMap with
  | true =>
    simp only [lookupFunction, LookupFunction.watched, callKind, h, if_true]
    rfl
  | false =>
    simp only [lookupFunction, LookupFunction.watched, callKind, h, Bool.false_eq_true, if_false]
    refine funext fun w => ?_
    change (loader.watched.fetchOne c f >>= fun found => pure found.toList).exec w =
      (watch [⟨.one, c, f⟩] (loader.fetchOne c f >>= fun found => pure found.toList)).exec w
    simp only [Loader.watched, watch, Run.exec_bind, Run.exec_of]
    rcases (loader.fetchOne c f).exec w.state with ⟨_ | found, s⟩ <;> rfl

/-! ### Conversions -/

/-- Documents converted one after the other, up to the first that fails: the documents that were
    asked for, the outcome and the state after it. -/
inductive Converts (convert : Converter σ) :
    List Value → σ → List Value → Except Failure (List Value) → σ → Prop
  | done (s : σ) : Converts convert [] s [] (.ok []) s
  | fails {d : Value} {s s' : σ} {e : Failure} (h : (convert d).exec s = (.error e, s'))
    (ds : List Value) : Converts convert (d :: ds) s [d] (.error e) s'
  | next {d v : Value} {ds asked : List Value} {s s' s'' : σ} {r : Except Failure (List Value)}
    (h : (convert d).exec s = (.ok v, s')) (hs : Converts convert ds s' asked r s'') :
    Converts convert (d :: ds) s (d :: asked) (r.map (v :: ·)) s''

namespace Converts

variable {convert : Converter σ} {docs asked : List Value} {s s' : σ}

/-- If none fails, each document was asked for and has a value. -/
theorem of_ok {vs : List Value} {r : Except Failure (List Value)}
    (h : Converts convert docs s asked r s') (hr : r = .ok vs) :
    asked = docs ∧ vs.length = docs.length := by
  induction h generalizing vs with
  | done s =>
    cases hr
    exact ⟨rfl, rfl⟩
  | fails => contradiction
  | @next d v ds asked s s' s'' r _ _ ih =>
    cases r with
    | error e => contradiction
    | ok ws =>
      cases hr
      obtain ⟨rfl, hlen⟩ := ih rfl
      exact ⟨rfl, congrArg Nat.succ hlen⟩

/-- If one fails, it was the last that was asked for, and its failure is the outcome. -/
theorem of_error {e : Failure} {r : Except Failure (List Value)}
    (h : Converts convert docs s asked r s') (hr : r = .error e) :
    ∃ front d rest mid, docs = front ++ d :: rest ∧ asked = front ++ [d] ∧
      (convert d).exec mid = (.error e, s') := by
  induction h with
  | done => contradiction
  | @fails d s s' f hd ds =>
    cases hr
    exact ⟨[], d, ds, s, rfl, rfl, hd⟩
  | @next d v ds asked s s' s'' r _ _ ih =>
    cases r with
    | ok vs => contradiction
    | error f =>
      cases hr
      obtain ⟨front, d', rest, mid, rfl, rfl, hd'⟩ := ih rfl
      exact ⟨d :: front, d', rest, mid, rfl, rfl, hd'⟩

end Converts

/-- All documents are converted in their order, whatever is written down. -/
theorem Property.exec_convertAll_watched (convert : Converter σ) (note : Value → List ρ)
    (docs : List Value) (s : σ) (log : List ρ) :
    ∃ asked r s', Converts convert docs s asked r s' ∧
      (convertAll convert docs).exec s = (r, s') ∧
      (convertAll (convert.watched note) docs).exec ⟨s, log⟩
        = (r, ⟨s', log ++ asked.flatMap note⟩) := by
  induction docs generalizing s log with
  | nil => exact ⟨[], .ok [], s, .done s, rfl, by simp [convertAll]⟩
  | cons d ds ih =>
    rcases hd : (convert d).exec s with ⟨_ | v, s'⟩
    · refine ⟨[d], _, s', .fails hd ds, ?_, ?_⟩
      · rw [convertAll, Run.exec_bind, hd]
      · rw [convertAll, Run.exec_bind, Converter.watched, exec_watch hd, List.flatMap_singleton]
    · obtain ⟨asked, r, s'', hs, hrun, hwatched⟩ := ih s' (log ++ note d)
      refine ⟨d :: asked, _, s'', .next hd hs, ?_, ?_⟩
      · rw [convertAll, Run.exec_bind, hd]
        simp only [Run.exec_bind, hrun]
        cases r <;> rfl
      · rw [convertAll, Run.exec_bind]
        simp only [Converter.watched] at hwatched ⊢
        rw [exec_watch hd]
        simp only [Run.exec_bind, hwatched, List.flatMap_cons, List.append_assoc]
        cases r <;> rfl

end LinkedDocs
