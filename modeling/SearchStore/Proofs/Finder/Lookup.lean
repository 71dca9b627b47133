import SearchStore.Engine.Script
import SearchStore.Proofs.Finder.Calls
import SearchStore.Proofs.Mapping
import SearchStore.Storage.Reader

/-!
# One document, read and fetched

A reader and a finder ask for one document with the same method, and decide in different ways whether it is there:
the reader looks at `found`, and the finder takes the answer for a page of documents, which it recognises by
`_source`. `lookups_agree_iff` says on which replies the two come to the same.
-/

namespace SearchStore

open SearchStore.Action (Asks Settles)

variable {ι σ : Type}

/-! ### Reading -/

namespace Reader

variable (r : Reader ι)

/-- What a reply to the request for one document is read as. -/
def readOf : Reply → Except Error (Option ι)
  | .ok answer =>
    if answer.get? "found" = some (.bool false) then .ok none
    else (r.mapper.document answer).map some
  | .error (.notFound _) => .ok none
  | .error e => .error (.engine e)

theorem readOf_of_absent {answer : Json} (hfound : answer.get? "found" = some (.bool false)) :
    r.readOf (.ok answer) = .ok none := by
  rw [readOf, if_pos hfound]

theorem readOf_of_found {answer : Json} (hfound : answer.get? "found" = some (.bool true)) :
    r.readOf (.ok answer) = (r.mapper.document answer).map some := by
  rw [readOf, hfound, if_neg (by simp)]

theorem asks_read {identifier : String} (htext : checkText "identifier" identifier = .ok ()) :
    Asks (r.read identifier) ⟨.get, r.getRequest identifier⟩ r.readOf := by
  unfold read
  rw [htext]
  apply (Action.settles_lift (.ok ())).asks
  apply Action.asks_connect_ask
  intro reply
  cases reply with
  | ok answer =>
    unfold readOf
    have hdocument := Action.settles_lift (r.mapper.document answer)
    by_cases hfound : answer.get? "found" = some (.bool false)
    · simp only [if_pos hfound]
      exact Action.settles_pure none
    · simp only [if_neg hfound]
      exact hdocument.bind fun item => Action.settles_pure (some item)
  | error e =>
    cases e with
    | notFound resource => exact (Action.settles_debug _).bind_ok (Action.settles_pure none)
    | _ => exact Action.settles_throw _

theorem settles_read {identifier : String} {e : Error} (htext : checkText "identifier" identifier = .error e) :
    Settles (r.read identifier) (.error e) := by
  unfold read
  rw [htext]
  exact (Action.settles_lift (.error e)).bind_error _

end Reader

/-! ### Agreement -/

/-- Reading a document and fetching it come to the same: it is not there, it is one item, or both fail. -/
structure SameOutcome (read : Except Error (Option ι)) (get : Except Error (Page ι)) : Prop where
  absent : read = .ok none ↔ ∃ page, get = .ok page ∧ page.items = [] ∧ page.total = 0
  present : ∀ item, read = .ok (some item) ↔ ∃ page, get = .ok page ∧ page.items = [item] ∧ page.total = 1
  failed : (∃ e, read = .error e) ↔ ∃ e, get = .error e

namespace SameOutcome

theorem of_errors (e e' : Error) : SameOutcome (ι := ι) (.error e) (.error e') where
  absent := ⟨nofun, nofun⟩
  present := fun _ => ⟨nofun, nofun⟩
  failed := ⟨fun _ => ⟨e', rfl⟩, fun _ => ⟨e, rfl⟩⟩

theorem of_absent : SameOutcome (ι := ι) (.ok none) (.ok {}) where
  absent := ⟨fun _ => ⟨{}, rfl, rfl, rfl⟩, fun _ => rfl⟩
  present := fun item => by
    constructor
    · nofun
    · rintro ⟨page, hpage, hitems, -⟩
      cases hpage
      cases hitems
  failed := ⟨nofun, nofun⟩

theorem of_item (item : ι) : SameOutcome (.ok (some item)) (.ok (Page.whole [item])) where
  absent := by
    constructor
    · nofun
    · rintro ⟨page, hpage, hitems, -⟩
      cases hpage
      cases hitems
  present := fun other => by
    constructor
    · intro h
      cases h
      exact ⟨Page.whole [item], rfl, rfl, rfl⟩
    · rintro ⟨page, hpage, hitems, -⟩
      cases hpage
      cases hitems
      rfl
  failed := ⟨nofun, nofun⟩

/-- What is read as absent is fetched as an empty page. -/
theorem eq_empty {get : Except Error (Page ι)} (h : SameOutcome (.ok none) get) :
    ∃ page, get = .ok page ∧ page.items = [] := by
  obtain ⟨page, hpage, hitems, -⟩ := h.absent.mp rfl
  exact ⟨page, hpage, hitems⟩

end SameOutcome

/-- An answer about one document, with a truth value for whether it was found. -/
structure DocumentAnswer (answer : Json) : Prop where
  found : ∃ b, answer.get? "found" = some (.bool b)
  hits : answer.get? "hits" = none
  docs : answer.get? "docs" = none

/-- A reply on which a reader and a finder with the same mapper agree: a failure, or a document that was found and
either has a source or is refused by the mapper. -/
def Conclusive (m : Mapper ι) : Reply → Prop
  | .error _ => True
  | .ok answer =>
    answer.get? "found" = some (.bool true) ∧
      ((answer.get? "_source").isSome ∨ ∃ e, m.document answer = .error e)

theorem conclusive_ok (m : Mapper ι) (answer : Json) :
    Conclusive m (.ok answer) ↔
      answer.get? "found" = some (.bool true) ∧
        ((answer.get? "_source").isSome ∨ ∃ e, m.document answer = .error e) := Iff.rfl

theorem sameOutcome_error (r : Reader ι) (f : Finder ι) (e : EngineError) :
    SameOutcome (r.readOf (.error e)) (f.fetched (.error e)) := by
  cases e with
  | notFound resource => exact .of_absent
  | _ => exact .of_errors _ _

theorem Finder.fetched_of_source (f : Finder ι) {answer : Json} (hsource : (answer.get? "_source").isSome) :
    f.fetched (.ok answer) = (f.mapper.document answer).map fun item => Page.whole [item] := by
  rw [fetched, listed, f.mapper.answer_of_source hsource]
  cases f.mapper.document answer with
  | error e => rfl
  | ok item => rfl

/-- Without a source, the finder does not know the form of the answer. -/
theorem Finder.fetched_of_no_source (f : Finder ι) {answer : Json} (h : DocumentAnswer answer)
    (hsource : answer.get? "_source" = none) :
    f.fetched (.ok answer) = .error (.mapping (.unsupportedFormat answer)) := by
  rw [fetched, listed, f.mapper.answer_of_none hsource h.hits h.docs]
  rfl

/-- What the reader takes for absent, the finder takes for a document or for an error. -/
theorem not_sameOutcome_of_absent (r : Reader ι) (f : Finder ι) {answer : Json} (h : DocumentAnswer answer)
    (hfound : answer.get? "found" = some (.bool false)) :
    ¬ SameOutcome (r.readOf (.ok answer)) (f.fetched (.ok answer)) := by
  intro hsame
  rw [r.readOf_of_absent hfound] at hsame
  obtain ⟨page, hpage, hitems⟩ := hsame.eq_empty
  cases hsource : answer.get? "_source" with
  | none =>
    rw [f.fetched_of_no_source h hsource] at hpage
    cases hpage
  | some source =>
    rw [f.fetched_of_source (by rw [hsource]; rfl)] at hpage
    cases hdocument : f.mapper.document answer with
    | error e =>
      rw [hdocument] at hpage
      cases hpage
    | ok item =>
      rw [hdocument] at hpage
      cases hpage
      cases hitems

/-- A document that was found and has no source is mapped by the reader alone. -/
theorem sameOutcome_no_source_iff (r : Reader ι) (f : Finder ι) {answer : Json} (h : DocumentAnswer answer)
    (hfound : answer.get? "found" = some (.bool true)) (hsource : answer.get? "_source" = none) :
    SameOutcome (r.readOf (.ok answer)) (f.fetched (.ok answer)) ↔
      ∃ e, r.mapper.document answer = .error e := by
  rw [r.readOf_of_found hfound, f.fetched_of_no_source h hsource]
  constructor
  · intro hsame
    obtain ⟨e, he⟩ := hsame.failed.mpr ⟨_, rfl⟩
    cases hdocument : r.mapper.document answer with
    | error e => exact ⟨e, rfl⟩
    | ok item =>
      rw [hdocument] at he
      cases he
  · rintro ⟨e, he⟩
    rw [he]
    exact .of_errors _ _

theorem sameOutcome_of_source {r : Reader ι} {f : Finder ι} (hmapper : r.mapper = f.mapper) {answer : Json}
    (hfound : answer.get? "found" = some (.bool true)) (hsource : (answer.get? "_source").isSome) :
    SameOutcome (r.readOf (.ok answer)) (f.fetched (.ok answer)) := by
  rw [r.readOf_of_found hfound, f.fetched_of_source hsource, hmapper]
  cases f.mapper.document answer with
  | error e => exact .of_errors e e
  | ok item => exact .of_item item

theorem sameOutcome_iff_conclusive {r : Reader ι} {f : Finder ι} (hmapper : r.mapper = f.mapper)
    {reply : Reply} (hreply : ∀ answer, reply = .ok answer → DocumentAnswer answer) :
    SameOutcome (r.readOf reply) (f.fetched reply) ↔ Conclusive r.mapper reply := by
  cases reply with
  | error e => exact ⟨fun _ => trivial, fun _ => sameOutcome_error r f e⟩
  | ok answer =>
    have hanswer := hreply answer rfl
    obtain ⟨b, hfound⟩ := hanswer.found
    rw [conclusive_ok]
    cases b with
    | false =>
      have hno := not_sameOutcome_of_absent r f hanswer hfound
      simp [hno, hfound]
    | true =>
      cases hsource : answer.get? "_source" with
      | none =>
        rw [sameOutcome_no_source_iff r f hanswer hfound hsource]
        simp [hfound]
      | some source =>
        have hsome : (answer.get? "_source").isSome := by rw [hsource]; rfl
        have hsame := sameOutcome_of_source hmapper hfound hsome
        simp [hsame, hfound]

/-! ### Runs -/

theorem Finder.checkSingleIndex_of_size {index docType : Selection} (hindex : index.size = 1)
    (hdocType : docType.size = 1) : checkSingleIndex index docType = .ok () := by
  simp [checkSingleIndex, hindex, hdocType]

/-- **When the two ways to one document agree.** A reader and a finder of the same target with one index and one
type, with the same mapper, read and fetch a document from an engine that gives both the same reply. The results
come to the same exactly if the identifier is blank, or the connection fails, or the reply is conclusive: an error,
or a document that was found and that has a source or is refused by the mapper. -/
theorem lookups_agree_iff {r : Reader ι} {f : Finder ι} (hmapper : r.mapper = f.mapper)
    (htarget : r.target = ⟨f.index, f.docType⟩)
    (hsingle : r.target.index.size = 1 ∧ r.target.docType.size = 1) (identifier : String)
    (engine : Engine σ) (state : σ) {reply : Reply}
    (hread : (engine.answer ⟨.get, r.getRequest identifier⟩ (engine.connect state).2).1 = reply)
    (hget : (engine.answer ⟨.get, f.getRequest identifier⟩ (engine.connect state).2).1 = reply)
    (hreply : ∀ answer, reply = .ok answer → DocumentAnswer answer) :
    SameOutcome ((r.read identifier).execute engine state).value
        ((f.getByIdentifier identifier).execute engine state).value ↔
      Text.isBlank identifier = true ∨ (∃ e, (engine.connect state).1 = .error e) ∨
        Conclusive r.mapper reply := by
  rw [htarget] at hsingle
  have hsize := Finder.checkSingleIndex_of_size hsingle.1 hsingle.2
  cases hblank : Text.isBlank identifier with
  | true =>
    have htext : ∃ e, checkText "identifier" identifier = .error e := by
      unfold checkText
      rw [if_pos hblank]
      exact ⟨_, rfl⟩
    obtain ⟨e, he⟩ := htext
    have hrefused : (checkText "identifier" identifier).bind
        (fun _ => Finder.checkSingleIndex f.index f.docType) = .error e := by
      rw [he]
      rfl
    have hfetch := f.settles_getByIdentifier hrefused
    rw [(r.settles_read he).value_eq, hfetch.value_eq]
    exact ⟨fun _ => .inl rfl, fun _ => .of_errors e e⟩
  | false =>
    have htext : checkText "identifier" identifier = .ok () := by
      unfold checkText
      rw [hblank, if_neg (by decide)]
    rw [(r.asks_read htext).value_eq, (f.asks_getByIdentifier htext hsize).value_eq, hread, hget]
    cases (engine.connect state).1 with
    | error e =>
      simp only [Action.mapError_error, Except.bind]
      exact ⟨fun _ => .inr (.inl ⟨e, rfl⟩), fun _ => .of_errors _ _⟩
    | ok _ =>
      simp only [Action.mapError_ok, Except.bind]
      rw [sameOutcome_iff_conclusive hmapper hreply]
      simp

/-- A document that was found, with its source. -/
theorem lookups_agree_dune :
    let answer : Json :=
      .object [("_id", .string "dune"), ("found", .bool true), ("_source", .object [("pages", .natural 412)])]
    let r : Reader Json :=
      { connector := {}, config := {}, target := ⟨⟨["library"]⟩, ⟨["book"]⟩⟩, mapper := .source }
    let f : Finder Json :=
      { connector := {}, mapper := .source
        config := { index := some ⟨["library"]⟩, docType := some ⟨["book"]⟩ } }
    let script : Script := { replies := [(.get, .ok answer)] }
    (r.mapper = f.mapper ∧ r.target = ⟨f.index, f.docType⟩ ∧ DocumentAnswer answer) ∧
    SameOutcome ((r.read "dune").execute Script.engine script).value
      ((f.getByIdentifier "dune").execute Script.engine script).value := by
  intro answer r f script
  have hanswer : DocumentAnswer answer := ⟨⟨true, rfl⟩, rfl, rfl⟩
  have hreply : ∀ other, Except.ok answer = (Except.ok other : Reply) → DocumentAnswer other := by
    intro other hother
    rw [← Except.ok.inj hother]
    exact hanswer
  have hread : (Script.engine.answer ⟨.get, r.getRequest "dune"⟩ (Script.engine.connect script).2).1 =
      .ok answer := rfl
  have hget : (Script.engine.answer ⟨.get, f.getRequest "dune"⟩ (Script.engine.connect script).2).1 =
      .ok answer := rfl
  have hagree := lookups_agree_iff (r := r) (f := f) rfl rfl ⟨rfl, rfl⟩ "dune" Script.engine script
    hread hget hreply
  have hconclusive : Conclusive r.mapper (.ok answer) := ⟨rfl, .inl rfl⟩
  exact ⟨⟨rfl, rfl, hanswer⟩, hagree.mpr (.inr (.inr hconclusive))⟩

/-- A document that was not found is read as absent and cannot be fetched. A document without a source is read if
the mapper does not ask for one, and cannot be fetched either. -/
theorem lookups_disagree :
    let absent : Json := .object [("_id", .string "dune"), ("found", .bool false)]
    let bare : Json := .object [("_id", .string "dune"), ("found", .bool true)]
    let identifiers : Mapper String := ⟨fun document => .ok (identifierOf document)⟩
    let r : Reader String :=
      { connector := {}, config := {}, target := ⟨⟨["library"]⟩, ⟨["book"]⟩⟩, mapper := identifiers }
    let f : Finder String :=
      { connector := {}, mapper := identifiers
        config := { index := some ⟨["library"]⟩, docType := some ⟨["book"]⟩ } }
    let read (answer : Json) :=
      ((r.read "dune").execute Script.engine { replies := [(.get, .ok answer)] }).value
    let get (answer : Json) :=
      ((f.getByIdentifier "dune").execute Script.engine { replies := [(.get, .ok answer)] }).value
    (read absent = .ok none ∧ get absent = .error (.mapping (.unsupportedFormat absent)) ∧
      ¬ SameOutcome (read absent) (get absent)) ∧
    read bare = .ok (some "dune") ∧ get bare = .error (.mapping (.unsupportedFormat bare)) ∧
      ¬ SameOutcome (read bare) (get bare) := by
  intro absent bare identifiers r f read get
  have hdiffer : ∀ {result : Option String} {e : Error}, ¬ SameOutcome (.ok result) (.error e) := by
    intro result e hsame
    obtain ⟨e', he'⟩ := hsame.failed.mpr ⟨e, rfl⟩
    cases he'
  have hread : read absent = .ok none := rfl
  have hget : get absent = .error (.mapping (.unsupportedFormat absent)) := rfl
  have hreadBare : read bare = .ok (some "dune") := rfl
  have hgetBare : get bare = .error (.mapping (.unsupportedFormat bare)) := rfl
  refine ⟨⟨hread, hget, ?_⟩, hreadBare, hgetBare, ?_⟩
  · rw [hread, hget]
    exact hdiffer
  · rw [hreadBare, hgetBare]
    exact hdiffer

end SearchStore
