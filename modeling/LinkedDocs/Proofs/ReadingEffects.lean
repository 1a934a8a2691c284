import LinkedDocs.Proofs.KeyedValues
import LinkedDocs.Proofs.ReferenceOrder
import LinkedDocs.Proofs.Requests

/-! What reading a reference asks for.

    Reading looks up once, with the filter and the context of the reference value, and before that
    nothing is asked for. Where there is nothing to look up, or the filter or the context fails,
    there is no lookup at all. After it the documents are converted: the first of them for a single
    reference, all of them in their final order for several, up to the first failure. Resolving asks
    its loader the same one question. -/

namespace LinkedDocs

variable {σ : Type}

/-- A request that reading makes. -/
inductive Request where
  | lookup (context : Context) (filter : Value)
  | conversion (document : Value)

/-- The lookup finds documents: mappings. -/
def LookupFunction.FindsDocuments (lookup : LookupFunction σ) : Prop :=
  ∀ c f s docs s', (lookup c f).exec s = (.ok docs, s') → ∀ d ∈ docs, d.isMapping = true

namespace Property

/-- The lookup of a reference value: it is not vacant and has a filter and a context. -/
structure LooksUp (p : Property) (value : Value) (c : Context) (f : Value) : Prop where
  vacant : p.isVacant value = false
  filter : p.filter value = .ok f
  context : p.context value = .ok c

/-- What reading a reference does from a state: the outcome, the state after it and the requests. -/
inductive Reads (p : Property) (value : Value) (lookup : LookupFunction σ)
    (convert : Converter σ) (s : σ) : Except Failure Value → σ → List Request → Prop
  | vacant (h : p.isVacant value = true) : Reads p value lookup convert s (.ok (.list [])) s []
  | noFilter {e : Failure} (hv : p.isVacant value = false) (h : p.filter value = .error e) :
    Reads p value lookup convert s (.error e) s []
  | noContext {f : Value} {e : Failure} (hv : p.isVacant value = false)
    (hf : p.filter value = .ok f) (h : p.context value = .error e) :
    Reads p value lookup convert s (.error e) s []
  | noDocuments {c : Context} {f : Value} {e : Failure} {s' : σ} (h : p.LooksUp value c f)
    (hdocs : (lookup c f).exec s = (.error e, s')) :
    Reads p value lookup convert s (.error e) s' [.lookup c f]
  /-- A single reference that leads nowhere. -/
  | nothing {c : Context} {f : Value} {s' : σ} (hm : p.isMulti = false) (h : p.LooksUp value c f)
    (hdocs : (lookup c f).exec s = (.ok [], s')) :
    Reads p value lookup convert s (.ok .null) s' [.lookup c f]
  /-- A single reference: the first document is converted. -/
  | first {c : Context} {f d : Value} {ds : List Value} {r : Except Failure Value} {s' s'' : σ}
    (hm : p.isMulti = false) (h : p.LooksUp value c f)
    (hdocs : (lookup c f).exec s = (.ok (d :: ds), s')) (hd : (convert d).exec s' = (r, s'')) :
    Reads p value lookup convert s r s'' [.lookup c f, .conversion d]
  /-- Several references: every document is converted, in the final order. -/
  | all {c : Context} {f : Value} {docs ordered vs : List Value} {s' s'' : σ}
    (hm : p.isMulti = true) (h : p.LooksUp value c f)
    (hdocs : (lookup c f).exec s = (.ok docs, s'))
    (horder : p.arrange value f docs = .ok ordered) (hperm : ordered.Perm docs)
    (hvs : Converts convert ordered s' ordered (.ok vs) s'') (hlen : vs.length = docs.length) :
    Reads p value lookup convert s (.ok (.list vs)) s'' (.lookup c f :: ordered.map .conversion)
  /-- Several references, and a document cannot be converted: it is the last one asked for. -/
  | stopped {c : Context} {f d : Value} {docs front rest : List Value} {e : Failure}
    {s' s'' mid : σ} (hm : p.isMulti = true) (h : p.LooksUp value c f)
    (hdocs : (lookup c f).exec s = (.ok docs, s'))
    (horder : p.arrange value f docs = .ok (front ++ d :: rest))
    (hperm : (front ++ d :: rest).Perm docs)
    (hvs : Converts convert (front ++ d :: rest) s' (front ++ [d]) (.error e) s'')
    (hd : (convert d).exec mid = (.error e, s'')) :
    Reads p value lookup convert s (.error e) s''
      (.lookup c f :: (front ++ [d]).map .conversion)

variable {p : Property} {value f : Value} {c : Context} {lookup : LookupFunction σ}
  {convert : Converter σ} {s : σ}

/-! ### Before and after the lookup -/

theorem exec_read_vacant (h : p.isVacant value = true) :
    (p.read value lookup convert).exec s = (.ok (.list []), s) := by
  rw [read, if_pos h]
  rfl

theorem exec_read_noFilter {e : Failure} (hv : p.isVacant value = false)
    (h : p.filter value = .error e) : (p.read value lookup convert).exec s = (.error e, s) := by
  rw [read, hv]
  simp only [Bool.false_eq_true, if_false, Run.exec_bind, Run.exec_lift, h]

theorem exec_read_noContext {e : Failure} (hv : p.isVacant value = false)
    (hf : p.filter value = .ok f) (h : p.context value = .error e) :
    (p.read value lookup convert).exec s = (.error e, s) := by
  rw [read, hv]
  simp only [Bool.false_eq_true, if_false, Run.exec_bind, Run.exec_lift, hf, h]

theorem exec_read (h : p.LooksUp value c f) : (p.read value lookup convert).exec s =
    (lookup c f >>= p.collect convert value f).exec s := by
  rw [read, h.vacant]
  simp only [Bool.false_eq_true, if_false]
  rw [Run.exec_bind, Run.exec_lift, h.filter]
  simp only
  rw [Run.exec_bind, Run.exec_lift, h.context]

/-- The documents of several references that exist can be put in order. -/
theorem exists_arrange (hm : p.isMulti = true) (hk : value.isKeyed = true)
    (hf : p.filter value = .ok f) {docs : List Value} (hdocs : ∀ d ∈ docs, d.isMapping = true) :
    ∃ ordered, p.arrange value f docs = .ok ordered ∧ ordered.Perm docs := by
  -- Only the documents of several references with a template are moved.
  have unchanged (h : (p.isTemplated && value.sequence?.isSome) = false) :
      ∃ ordered, p.arrange value f docs = .ok ordered ∧ ordered.Perm docs := by
    refine ⟨docs, ?_, .refl docs⟩
    rw [arrange, h]
    rfl
  cases hlink : p.link with
  | pointer o =>
    refine unchanged ?_
    rw [isTemplated, hlink]
    rfl
  | lookup l =>
    cases hseq : value.sequence? with
    | none => exact unchanged (by rw [hseq, Option.isSome_none, Bool.and_false])
    | some xs =>
      have hxs : ∀ x ∈ xs, x.isKeyed = true := by
        cases value <;> cases hseq <;> exact Value.allKeyed_iff.1 hk
      rw [filter_eq_anyOf hlink hm hseq] at hf
      cases hbs : p.branches l xs with
      | error e =>
        rw [hbs] at hf
        contradiction
      | ok bs =>
        rw [hbs] at hf
        cases hf
        obtain ⟨ordered, hordered, hstable⟩ :=
          BranchOrder.restore_eq (isDocument_branches hxs hbs) hdocs
        exact ⟨ordered, by rw [arrange_anyOf hlink hseq, hordered], hstable.perm⟩

/-- What is done with the documents that were found for several references. -/
theorem reads_several (convert : Converter σ) (hm : p.isMulti = true)
    (hk : value.isKeyed = true) (hfinds : lookup.FindsDocuments) (h : p.LooksUp value c f)
    {docs : List Value} {s' : σ}
    (hdocs : (lookup c f).exec s = (.ok docs, s')) (log : List Request) :
    ∃ r s'', ∃ asked : List Value,
      Reads p value lookup convert s r s'' (.lookup c f :: asked.map .conversion) ∧
      (p.collect convert value f docs).exec s' = (r, s'') ∧
      (p.collect (convert.watched fun d => [Request.conversion d]) value f docs).exec ⟨s', log⟩
        = (r, ⟨s'', log ++ asked.map .conversion⟩) := by
  obtain ⟨ordered, horder, hperm⟩ := exists_arrange hm hk h.filter (hfinds c f s docs s' hdocs)
  obtain ⟨asked, r, s'', hvs, hrun, hwatched⟩ :=
    exec_convertAll_watched convert (fun d => [Request.conversion d]) ordered s' log
  refine ⟨r.map .list, s'', asked, ?_, ?_, ?_⟩
  · cases r with
    | ok vs =>
      obtain ⟨rfl, hlen⟩ := hvs.of_ok rfl
      exact .all hm h hdocs horder hperm hvs (hlen.trans hperm.length_eq)
    | error e =>
      obtain ⟨front, d, rest, mid, rfl, rfl, hd⟩ := hvs.of_error rfl
      exact .stopped hm h hdocs horder hperm hvs hd
  · simp only [collect, hm, if_true, Run.exec_bind, Run.value, Run.exec_lift, horder,
      Except.mapError, hrun]
    cases r <;> rfl
  · simp only [collect, hm, if_true, Run.exec_bind, Run.value, Run.exec_lift, horder,
      Except.mapError, hwatched]
    rw [List.map_eq_flatMap]
    cases r <;> rfl

/-- Reading does what is said of it. -/
theorem reads (hk : value.isKeyed = true) (hfinds : lookup.FindsDocuments) (convert : Converter σ)
    (s : σ) :
    ∃ r s' requests, Reads p value lookup convert s r s' requests ∧
      (p.read value lookup convert).exec s = (r, s') ∧
      (p.read value (lookup.watched .lookup) (convert.watched fun d => [.conversion d])).exec ⟨s, []⟩
        = (r, ⟨s', requests⟩) := by
  cases hv : p.isVacant value with
  | true => exact ⟨_, s, [], .vacant hv, exec_read_vacant hv, exec_read_vacant hv⟩
  | false =>
  cases hf : p.filter value with
  | error e =>
    exact ⟨_, s, [], .noFilter hv hf, exec_read_noFilter hv hf, exec_read_noFilter hv hf⟩
  | ok f =>
  cases hc : p.context value with
  | error e =>
    exact ⟨_, s, [], .noContext hv hf hc, exec_read_noContext hv hf hc,
      exec_read_noContext hv hf hc⟩
  | ok c =>
    -- Until here nothing was asked for, and from here on nothing but the lookup was.
    have h : p.LooksUp value c f := ⟨hv, hf, hc⟩
    rw [exec_read h, exec_read h, Run.exec_bind, Run.exec_bind]
    rcases hdocs : (lookup c f).exec s with ⟨_ | docs, s'⟩
    all_goals rw [LookupFunction.watched, exec_watch hdocs, List.nil_append]
    · exact ⟨_, s', _, .noDocuments h hdocs, rfl, rfl⟩
    · cases hm : p.isMulti with
      | true =>
        obtain ⟨r, s'', asked, hreads, hrun, hwatched⟩ :=
          reads_several convert hm hk hfinds h hdocs [.lookup c f]
        exact ⟨r, s'', _, hreads, hrun, hwatched⟩
      | false =>
        simp only [collect, hm, Bool.false_eq_true, if_false]
        cases docs with
        | nil => exact ⟨_, s', _, .nothing hm h hdocs, rfl, rfl⟩
        | cons d ds =>
          rcases hd : (convert d).exec s' with ⟨r, s''⟩
          exact ⟨r, s'', _, .first hm h hdocs hd, rfl, exec_watch hd _⟩

/-! ### Resolving -/

/-- The questions that resolving a reference at once puts to its loader. -/
def loaderCalls (p : Property) (value : Value) : List LoaderCall :=
  match p.isVacant value, p.filter value, p.context value with
  | false, .ok f, .ok c => [⟨p.callKind, c, f⟩]
  | _, _, _ => []

theorem length_loaderCalls (p : Property) (value : Value) : (p.loaderCalls value).length ≤ 1 := by
  unfold loaderCalls
  split <;> simp

theorem mem_loaderCalls {q : LoaderCall} (h : q ∈ p.loaderCalls value) :
    p.LooksUp value q.context q.filter ∧ (q.kind = .many ↔ (p.isMulti || p.isMap) = true) := by
  unfold loaderCalls at h
  split at h
  · next hv hf hc =>
    obtain rfl := List.mem_singleton.1 h
    refine ⟨⟨hv, hf, hc⟩, ?_⟩
    rw [callKind]
    cases p.isMulti || p.isMap <;> simp
  · contradiction

/-- Converting makes no request of the loader. -/
theorem exec_collect_silent {ρ : Type} (convert : Converter σ) (docs : List Value)
    {r : Except Failure Value} {s s' : σ} (h : (p.collect convert value f docs).exec s = (r, s'))
    (log : List ρ) :
    (p.collect (convert.watched fun _ => []) value f docs).exec ⟨s, log⟩ = (r, ⟨s', log⟩) := by
  unfold collect at h ⊢
  split
  · next hm =>
    rw [if_pos hm] at h
    rw [Run.exec_bind] at h ⊢
    simp only [Run.value, Run.exec_lift] at h ⊢
    cases horder : p.arrange value f docs with
    | error m =>
      rw [horder] at h
      cases h
      rfl
    | ok ordered =>
      obtain ⟨asked, vs, t, -, hrun, hwatched⟩ :=
        exec_convertAll_watched convert (fun _ => ([] : List ρ)) ordered s log
      rw [horder] at h
      simp only [Except.mapError, Run.exec_bind, hrun] at h
      simp only [Except.mapError, Run.exec_bind, hwatched]
      cases vs <;> cases h <;> simp
  · next hm =>
    rw [if_neg hm] at h
    cases docs with
    | nil =>
      cases h
      rfl
    | cons d ds =>
      have hd : (watch [] (convert d)).exec ⟨s, log⟩ = (r, ⟨s', log ++ []⟩) := exec_watch h log
      rw [List.append_nil] at hd
      exact hd

/-- Loading puts its questions to the loader, and is not changed by their being written down. -/
theorem exec_load_watched (p : Property) (value : Value) (loader : Loader σ) (convert : Converter σ)
    {r : Except Failure Value} {s s' : σ} (h : (p.load value loader convert).exec s = (r, s')) :
    (p.load value loader.watched (convert.watched fun _ => [])).exec ⟨s, []⟩
      = (r, ⟨s', p.loaderCalls value⟩) := by
  rw [load] at h ⊢
  cases hv : p.isVacant value with
  | true =>
    rw [exec_read_vacant hv] at h ⊢
    cases h
    simp [loaderCalls, hv]
  | false =>
  cases hf : p.filter value with
  | error e =>
    rw [exec_read_noFilter hv hf] at h ⊢
    cases h
    simp [loaderCalls, hf]
  | ok f =>
  cases hc : p.context value with
  | error e =>
    rw [exec_read_noContext hv hf hc] at h ⊢
    cases h
    simp [loaderCalls, hc]
  | ok c =>
    have hcalls : p.loaderCalls value = [⟨p.callKind, c, f⟩] := by simp [loaderCalls, hv, hf, hc]
    have hl : p.LooksUp value c f := ⟨hv, hf, hc⟩
    rw [exec_read hl, Run.exec_bind] at h
    rw [exec_read hl, lookupFunction_watched, LookupFunction.watched, Run.exec_bind, hcalls]
    rcases hdocs : (p.lookupFunction loader c f).exec s with ⟨_ | docs, t⟩
    all_goals
      rw [hdocs] at h
      rw [exec_watch hdocs, List.nil_append]
    · cases h
      rfl
    · exact exec_collect_silent convert docs h _

/-- A store is left as it is by everything but the converter. -/
theorem gives_load_ofStore (p : Property) (value : Value) (store : σ → Store) {S : Store}
    (hconvert : ∀ d, Run.Gives (fun s => store s = S) (convert d) fun _ => True) :
    Run.Gives (fun s => store s = S) (p.load value (Loader.ofStore store) convert)
      fun _ => True := by
  have all (docs : List Value) :
      Run.Gives (fun s => store s = S) (convertAll convert docs) fun _ => True := by
    induction docs with
    | nil => exact .pure trivial
    | cons d ds ih => exact (hconvert d).bind fun _ _ => ih.bind fun _ _ => .pure trivial
  -- Fetching reads the store, and writes nothing.
  have lookup (c : Context) (f : Value) : Run.Gives (fun s => store s = S)
      (p.lookupFunction (Loader.ofStore store) c f) fun _ => True := by
    unfold lookupFunction
    split
    · exact fun s hs => ⟨hs, fun _ _ => trivial⟩
    · refine Run.Gives.bind (P := fun _ => True) (fun s hs => ⟨hs, fun _ _ => trivial⟩) ?_
      exact fun _ _ => .pure trivial
  unfold load read
  split
  · exact .pure trivial
  · refine .lift_seq fun f => .lift_seq fun c => (lookup c f).bind fun docs _ => ?_
    unfold collect
    split
    · exact .lift_seq fun ordered => (all ordered).bind fun _ _ => .pure trivial
    · split
      · exact .pure trivial
      · exact hconvert _

theorem exec_resolve (hlazy : p.isLazy = false) (loader : Loader σ) (proxies : List (Proxy σ))
    {r : Except Failure Value} {s s' : σ} (h : (p.load value loader convert).exec s = (r, s')) :
    (Pool.resolve p value loader convert).exec ⟨proxies, s⟩ = (r, ⟨proxies, s'⟩) := by
  rw [Pool.resolve, hlazy]
  simp only [Bool.false_eq_true, if_false, Pool.onWorld, Run.exec_of, h]

theorem LooksUp.unique {c' : Context} {f' : Value} (h : p.LooksUp value c f)
    (h' : p.LooksUp value c' f') : c = c' ∧ f = f' :=
  ⟨Except.ok.inj (h.context.symm.trans h'.context), Except.ok.inj (h.filter.symm.trans h'.filter)⟩

/-- The lookup gives no document, or one that is converted to null. -/
def FindsNull (p : Property) (value : Value) (lookup : LookupFunction σ) (convert : Converter σ)
    (s : σ) : Prop :=
  ∃ c f docs t, p.LooksUp value c f ∧ (lookup c f).exec s = (.ok docs, t) ∧
    ∀ d ∈ docs.head?, ((convert d).exec t).1 = .ok .null

/-- What is found is told by any lookup of the reference value. -/
theorem findsNull_iff (h : p.LooksUp value c f) : p.FindsNull value lookup convert s ↔
    ∃ docs t, (lookup c f).exec s = (.ok docs, t) ∧
      ∀ d ∈ docs.head?, ((convert d).exec t).1 = .ok .null := by
  constructor
  · rintro ⟨c', f', docs, t, h', hdocs, hnull⟩
    obtain ⟨rfl, rfl⟩ := h.unique h'
    exact ⟨docs, t, hdocs, hnull⟩
  · rintro ⟨docs, t, hdocs, hnull⟩
    exact ⟨c, f, docs, t, h, hdocs, hnull⟩

/-- A single reference is null exactly if there is no document, or the first one is converted to
    null. -/
theorem Reads.null_iff {r : Except Failure Value} {s' : σ} {requests : List Request}
    (h : p.Reads value lookup convert s r s' requests) (hm : p.isMulti = false) :
    r = .ok .null ↔ p.FindsNull value lookup convert s := by
  cases h with
  | vacant hv => simp [isVacant, hm] at hv
  | noFilter _ hf =>
    refine iff_of_false (by simp) ?_
    rintro ⟨c, f, docs, t, hl, -⟩
    rw [hl.filter] at hf
    contradiction
  | noContext _ _ hc =>
    refine iff_of_false (by simp) ?_
    rintro ⟨c, f, docs, t, hl, -⟩
    rw [hl.context] at hc
    contradiction
  | noDocuments hl hdocs => simp [findsNull_iff hl, hdocs]
  | nothing _ hl hdocs => simp [findsNull_iff hl, hdocs]
  | first _ hl hdocs hd => simp [findsNull_iff hl, hdocs, hd]
  | all hm' | stopped hm' =>
    rw [hm] at hm'
    contradiction

/-- Reading a reference value asks for nothing before its one lookup, and for conversions after it;
    that requests are written down changes nothing. A single reference is null exactly if nothing is
    found or the first document is converted to null. Resolving at once puts at most one question to
    the loader, for many documents exactly if the property holds several references or a mapping of
    them, and leaves a store as it is. The reference value exists: in no mapping in it there is a
    key that cannot be one. -/
theorem reading_makes_one_lookup (p : Property) (value : Value) (hk : value.isKeyed = true) :
    (∀ {σ : Type} (lookup : LookupFunction σ) (convert : Converter σ) (s : σ),
      lookup.FindsDocuments → ∃ r s' requests,
        (p.read value (lookup.watched .lookup) (convert.watched fun d => [.conversion d])).exec
          ⟨s, []⟩ = (r, ⟨s', requests⟩) ∧
        (p.read value lookup convert).exec s = (r, s') ∧
        p.Reads value lookup convert s r s' requests ∧
        (p.isMulti = false → (r = .ok .null ↔ p.FindsNull value lookup convert s))) ∧
    (p.isLazy = false → ∀ {σ : Type} (loader : Loader σ) (convert : Converter σ) (s : σ),
      ∃ r s', (∀ proxies, (Pool.resolve p value loader convert).exec ⟨proxies, s⟩
          = (r, ⟨proxies, s'⟩)) ∧
        ∀ proxies, (Pool.resolve p value loader.watched (convert.watched fun _ => [])).exec
          ⟨proxies, ⟨s, []⟩⟩ = (r, ⟨proxies, ⟨s', p.loaderCalls value⟩⟩)) ∧
    (p.loaderCalls value).length ≤ 1 ∧
    (∀ q ∈ p.loaderCalls value, p.LooksUp value q.context q.filter ∧
      (q.kind = .many ↔ (p.isMulti || p.isMap) = true)) ∧
    (p.isLazy = false → ∀ {σ : Type} (store : σ → Store) (convert : Converter σ) (pool : Pool σ),
      (∀ d s, store ((convert d).exec s).2 = store s) →
        store ((Pool.resolve p value (Loader.ofStore store) convert).exec pool).2.world
          = store pool.world) := by
  refine ⟨?_, ?_, length_loaderCalls p value, fun q => mem_loaderCalls, ?_⟩
  · intro σ lookup convert s hfinds
    obtain ⟨r, s', requests, hreads, hrun, hwatched⟩ := reads hk hfinds convert s (p := p)
    exact ⟨r, s', requests, hwatched, hrun, hreads, hreads.null_iff⟩
  · intro hlazy σ loader convert s
    rcases hrun : (p.load value loader convert).exec s with ⟨r, s'⟩
    refine ⟨r, s', ?_, ?_⟩
    · intro proxies
      exact exec_resolve hlazy loader proxies hrun
    · intro proxies
      have hwatched := exec_load_watched p value loader convert hrun
      exact exec_resolve hlazy loader.watched proxies hwatched
  · intro hlazy σ store convert pool hkeep
    obtain ⟨proxies, s⟩ := pool
    rcases hrun : (p.load value (Loader.ofStore store) convert).exec s with ⟨r, s'⟩
    have kept (d : Value) : Run.Gives (fun t => store t = store s) (convert d) fun _ => True := by
      intro t ht
      exact ⟨(hkeep d t).trans ht, fun _ _ => trivial⟩
    have hstore := (p.gives_load_ofStore value store kept s rfl).1
    rw [hrun] at hstore
    rw [exec_resolve hlazy _ proxies hrun]
    exact hstore

end Property

namespace Shelf

theorem looksUp_books : books.LooksUp (.list [.int 1, .int 2]) byYear (anyOf [byKey 1, byKey 2]) := by
  refine ⟨rfl, ?_, context_books⟩
  have hf : List.Forall₂ (fun x b => books.filter x = .ok b) [.int 1, .int 2] [byKey 1, byKey 2] :=
    .cons (filter_books 1) (.cons (filter_books 2) .nil)
  rw [Property.filter_eq_anyOf (l := bookLookup) rfl rfl rfl,
    Property.branches_eq rfl rfl hf tellsApart_shelf.isPlain]
  rfl

/-- Books are looked up once, all together, and converted one by one. -/
theorem reading_books :
    (Value.list [.int 1, .int 2]).isKeyed = true ∧
      books.loaderCalls (.list [.int 1, .int 2])
        = [⟨.many, byYear, anyOf [byKey 1, byKey 2]⟩] ∧
      ∃ r s' requests, books.Reads (.list [.int 1, .int 2])
        (fun _ _ => (pure [book 2 1999, book 1 1987] : Run Unit _)) pure () r s' requests := by
  obtain ⟨hread, -, -, -, -⟩ :=
    Property.reading_makes_one_lookup books (.list [.int 1, .int 2]) rfl
  refine ⟨rfl, ?_, ?_⟩
  · obtain ⟨hv, hf, hc⟩ := looksUp_books
    rw [Property.loaderCalls, hv, hf, hc]
    rfl
  · have hfinds : LookupFunction.FindsDocuments
        (fun _ _ => (pure [book 2 1999, book 1 1987] : Run Unit _)) := by
      intro c f s docs s' h
      obtain ⟨rfl, -⟩ := Run.exec_pure_ok h
      exact List.forall_mem_cons.2 ⟨rfl, List.forall_mem_singleton.2 rfl⟩
    obtain ⟨r, s', requests, -, -, hreads, -⟩ := hread _ pure () hfinds
    exact ⟨r, s', requests, hreads⟩

end Shelf

end LinkedDocs
