import LinkedDocs.ExtendedJson
import LinkedDocs.Proofs.Outcomes

/-! What a complete document is read as.

    Extended JSON reads a document as itself or as a value that nothing can be reached in, with one
    exception: a regular expression whose pattern is no text stays a document, written the older way
    with the two parts it had. -/

namespace LinkedDocs

/-- A value that has neither entries nor items, and is no domain object, set or address. -/
def Value.isAtom : Value → Bool
  | .list _ | .tuple _ | .map _ | .mapping .. | .set .. | .entity .. | .url _ => false
  | _ => true

namespace ExtendedJson

open Value (Entries)

/-- What a complete document is read as. -/
inductive ReadAs (doc : Entries) : Value → Prop
  | itself : ReadAs doc (.map doc)
  | atom {v : Value} (h : v.isAtom = true) : ReadAs doc v
  /-- A regular expression, written the older way: the two parts are values in `doc`. -/
  | expression {e pattern options : Value × Value} {es : Entries} (he : e ∈ doc)
    (hes : e.2.entries? = some es) (hp : pattern ∈ es) (ho : options ∈ es) :
    ReadAs doc (.map [(.text "$regex", pattern.2), (.text "$options", options.2)])

/-- The value is an atom. -/
abbrev GivesAtom (x : Result) : Prop := Gives x fun v => v.isAtom = true

theorem gives_field (doc : Entries) (key : String) :
    Gives (field doc key) fun v => ∃ e ∈ doc, e.2 = v := by
  unfold field
  split
  · next v hv =>
    obtain ⟨e, he, rfl⟩ := Option.map_eq_some_iff.1 hv
    exact .ok ⟨e, List.mem_of_find?_eq_some he, rfl⟩
  · exact .error _

theorem gives_only (doc : Entries) (key : String) :
    Gives (only doc key) fun v => ∃ e ∈ doc, e.2 = v := by
  refine (gives_field doc key).bind fun v hv => ?_
  split
  · exact .ok hv
  · exact .error _

theorem objectId_givesAtom (v : Value) : GivesAtom (objectId v) := by
  unfold objectId
  repeat' split
  all_goals first | exact .ok rfl | exact .error _

theorem momentOfMillis_givesAtom (n : Int) : GivesAtom (momentOfMillis n) := by
  unfold momentOfMillis
  split
  · exact .ok rfl
  · exact .error _

theorem momentOfText_givesAtom (s : String) : GivesAtom (momentOfText s) := by
  unfold momentOfText
  split
  · refine .seq fun micro => ?_
    split
    · split
      · exact .error _
      · simp only
        repeat' split
        all_goals
          refine .seq fun seconds => ?_
          split
          · exact .ok rfl
          · exact .error _
    · exact .error _
  · exact .error _

theorem date_givesAtom (doc : Entries) : GivesAtom (date doc) := by
  refine .seq fun v => ?_
  split
  · exact momentOfText_givesAtom _
  · exact .seq fun n => momentOfMillis_givesAtom n

theorem gives_regex (doc : Entries) :
    Gives (regex doc) fun v => v = .map doc ∨ v.isAtom = true := by
  refine .seq fun v => ?_
  split
  · simp only
    split <;> exact .seq fun flags => .ok (Or.inr rfl)
  · exact .ok (.inl rfl)

theorem gives_regularExpression (doc : Entries) : Gives (regularExpression doc) (ReadAs doc) := by
  refine (gives_only doc _).bind fun v hv => .seq fun n => ?_
  obtain ⟨e, he, rfl⟩ := hv
  split
  · exact .error _
  · split
    · exact .error _
    · next es hes =>
      refine (gives_field es _).bind fun options hoptions => ?_
      obtain ⟨o, ho, rfl⟩ := hoptions
      split
      · exact .error _
      · refine (gives_field es _).bind fun pattern hpattern => ?_
        obtain ⟨p, hp, rfl⟩ := hpattern
        refine (gives_regex _).mono fun w hw => ?_
        rcases hw with rfl | hw
        · exact .expression he hes hp ho
        · exact .atom hw

theorem gives_dbRef (doc : Entries) :
    Gives (dbRef doc) fun v => v = .map doc ∨ v.isAtom = true := by
  unfold dbRef
  simp only
  split
  · split
    · exact .error _
    · exact .ok (.inr rfl)
  · exact .ok (.inl rfl)

theorem dbPointer_givesAtom (doc : Entries) : GivesAtom (dbPointer doc) := by
  refine .seq fun v => ?_
  split
  · exact .ok rfl
  · exact .error _

theorem numberInt_givesAtom (doc : Entries) : GivesAtom (numberInt doc) := by
  refine .seq fun s => ?_
  split
  · exact .ok rfl
  · exact .error _

theorem numberDouble_givesAtom (doc : Entries) : GivesAtom (numberDouble doc) := by
  refine .seq fun s => ?_
  split
  · exact .ok rfl
  · exact .error _

theorem numberDecimal_givesAtom (doc : Entries) : GivesAtom (numberDecimal doc) := by
  refine .seq fun s => ?_
  split
  · exact .ok rfl
  · exact .error _

theorem numberLong_givesAtom (doc : Entries) : GivesAtom (numberLong doc) :=
  .seq fun _ => .seq fun _ => .ok rfl

theorem bytesOf_givesAtom (data : String) (subtype : Int) : GivesAtom (bytesOf data subtype) := by
  unfold bytesOf
  repeat' split
  all_goals first | exact .ok rfl | exact .error _

theorem binaryWithType_givesAtom (data type : Value) : GivesAtom (binaryWithType data type) := by
  unfold binaryWithType
  simp only
  split
  all_goals
    refine .seq fun s => .seq fun n => ?_
    split
    all_goals
      refine .seq fun subtype => ?_
      split
      · exact bytesOf_givesAtom _ _
      · exact .error _

theorem binary_givesAtom (doc : Entries) : GivesAtom (binary doc) := by
  refine .seq fun v => ?_
  split
  · exact binaryWithType_givesAtom _ _
  · split
    · exact .error _
    · refine .seq fun data => .seq fun subtype => ?_
      split
      · split
        · exact .error _
        · exact .seq fun n => bytesOf_givesAtom _ _
      · exact .error _

theorem uuid_givesAtom (doc : Entries) : GivesAtom (uuid doc) := by
  refine .seq fun s => ?_
  simp only
  split
  · exact .error _
  · refine .seq fun n => ?_
    split
    · exact .error _
    · split
      · exact .ok rfl
      · exact .error _

theorem timestamp_givesAtom (doc : Entries) : GivesAtom (timestamp doc) := by
  refine .seq fun v => ?_
  split
  · exact .error _
  · split
    · exact .error _
    · refine .seq fun t => .seq fun i => ?_
      split
      · simp only
        split
        · exact .ok rfl
        · exact .error _
      · exact .error _

theorem code_givesAtom (doc : Entries) : GivesAtom (code doc) := by
  unfold code
  split
  · exact .error _
  · refine .seq fun v => ?_
    split
    · exact .error _
    · simp only
      split
      · exact .ok rfl
      · exact .error _

theorem extremeKey_givesAtom (doc : Entries) (key : String) {v : Value} (h : v.isAtom = true) :
    GivesAtom (extremeKey doc key v) := by
  refine .seq fun w => ?_
  split
  · split
    · exact .ok h
    · exact .error _
  · exact .error _

theorem gives_conversion {key : String} {f : Entries → Result} (hf : conversion? key = some f)
    (doc : Entries) : Gives (f doc) (ReadAs doc) := by
  -- A conversion makes an atom of the document or leaves it, but for the older regular expressions.
  have atom {x : Result} (h : GivesAtom x) : Gives x (ReadAs doc) := h.mono fun _ => .atom
  have same {x : Result} (h : Gives x fun v => v = .map doc ∨ v.isAtom = true) :
      Gives x (ReadAs doc) := by
    refine h.mono fun v hv => ?_
    rcases hv with rfl | hv
    · exact .itself
    · exact .atom hv
  unfold conversion? at hf
  split at hf <;> cases hf
  · exact .seq fun v => atom (objectId_givesAtom v)
  · exact atom (date_givesAtom doc)
  · exact same (gives_regex doc)
  · exact gives_regularExpression doc
  · exact same (gives_dbRef doc)
  · exact atom (dbPointer_givesAtom doc)
  · exact atom (numberInt_givesAtom doc)
  · exact atom (numberDouble_givesAtom doc)
  · exact atom (numberDecimal_givesAtom doc)
  · exact atom (numberLong_givesAtom doc)
  · exact atom (binary_givesAtom doc)
  · exact atom (uuid_givesAtom doc)
  · exact atom (timestamp_givesAtom doc)
  · exact atom (code_givesAtom doc)
  · exact atom (extremeKey_givesAtom doc _ rfl)
  · exact atom (extremeKey_givesAtom doc _ rfl)
  · exact .ok (.atom rfl)
  · exact .seq fun v => .seq fun s => .ok (.atom rfl)

theorem gives_interpret (doc : Entries) : Gives (interpret doc) (ReadAs doc) := by
  unfold interpret
  split
  · next f hf =>
    obtain ⟨e, -, he⟩ := List.exists_of_findSome?_eq_some hf
    obtain ⟨key, -, hkey⟩ := Option.bind_eq_some_iff.1 he
    exact gives_conversion hkey doc
  · exact .ok .itself

end ExtendedJson

end LinkedDocs
