import SearchStore.Mapping.Basic
import SearchStore.Proofs.Results

/-!
# Mapped answers

The form of an answer tells which documents it lists (`Lists`), if any, and these are what is mapped
(`Mapper.answer_of_lists`). The items of an answer with hits are those of its hits (`Mapper.answer_of_hits`), and an
answer with a source is one document (`Mapper.answer_of_source`). Mapping works document by document, so the items of a
page are a page of the items (`mapM_slice`).
-/

namespace SearchStore

/-! ### Documents of an answer -/

/-- The documents of an answer: itself if it has a source, else its hits, of which there are none if they are no list,
else the listed documents that were found. -/
inductive Lists (answer : Json) : List Json → Prop where
  | source {source : Json} : answer.get? "_source" = some source → Lists answer [answer]
  | hits {hits : Json} {documents : List Json} :
      answer.get? "_source" = none → answer.get? "hits" = some hits →
      hits.get? "hits" = some (.array documents) → Lists answer documents
  | noHits {hits : Json} :
      answer.get? "_source" = none → answer.get? "hits" = some hits →
      (∀ documents, hits.get? "hits" ≠ some (.array documents)) → Lists answer []
  | docs {docs : List Json} :
      answer.get? "_source" = none → answer.get? "hits" = none → answer.get? "docs" = some (.array docs) →
      Lists answer (docs.filter fun document => document.get? "found" = some (.bool true))

theorem bind_asArray?_eq_some_iff {value : Option Json} {items : List Json} :
    value.bind Json.asArray? = some items ↔ value = some (.array items) := by
  cases value with
  | none => simp
  | some value => cases value <;> simp [Json.asArray?]

theorem isFound_eq (document : Json) : isFound document = decide (document.get? "found" = some (.bool true)) := by
  rw [isFound]
  cases document.get? "found" with
  | none => rfl
  | some found => cases found <;> simp [Json.asBool?]

theorem documents?_eq_some_iff {answer : Json} {documents : List Json} :
    documents? answer = some documents ↔ Lists answer documents := by
  constructor
  · intro h
    unfold documents? at h
    split at h
    · rename_i hsource
      obtain ⟨source, hsource⟩ := Option.isSome_iff_exists.mp hsource
      obtain rfl := Option.some.inj h
      exact .source hsource
    · rename_i hsource
      have hsource : answer.get? "_source" = none := by simpa using hsource
      split at h
      · rename_i hits hhits
        obtain rfl := Option.some.inj h
        cases hitems : (hits.get? "hits").bind Json.asArray? with
        | none =>
          refine .noHits hsource hhits ?_
          intro items heq
          rw [bind_asArray?_eq_some_iff.mpr heq] at hitems
          cases hitems
        | some items => exact .hits hsource hhits (bind_asArray?_eq_some_iff.mp hitems)
      · rename_i hhits
        obtain ⟨docs, hdocs, rfl⟩ := Option.map_eq_some_iff.mp h
        rw [funext isFound_eq]
        exact .docs hsource hhits (bind_asArray?_eq_some_iff.mp hdocs)
  · intro h
    unfold documents?
    cases h with
    | source hsource => rw [hsource, Option.isSome_some, if_pos rfl]
    | hits hsource hhits hitems =>
      simp only [hsource, Option.isSome_none, Bool.false_eq_true, if_false, hhits]
      rw [bind_asArray?_eq_some_iff.mpr hitems, Option.getD_some]
    | @noHits hits hsource hhits hitems =>
      have hnone : (hits.get? "hits").bind Json.asArray? = none := by
        rw [Option.eq_none_iff_forall_not_mem]
        intro items hmem
        exact hitems items (bind_asArray?_eq_some_iff.mp hmem)
      simp only [hsource, Option.isSome_none, Bool.false_eq_true, if_false, hhits]
      rw [hnone, Option.getD_none]
    | docs hsource hhits hdocs =>
      simp only [hsource, Option.isSome_none, Bool.false_eq_true, if_false, hhits]
      rw [bind_asArray?_eq_some_iff.mpr hdocs, Option.map_some, funext isFound_eq]

/-! ### Mapping them -/

theorem Mapper.answer_of_lists {ι : Type} (m : Mapper ι) {answer : Json} {documents : List Json}
    (h : Lists answer documents) : m.answer answer = documents.mapM m.document := by
  rw [Mapper.answer, documents?_eq_some_iff.mpr h]

theorem Mapper.answer_of_unlisted {ι : Type} (m : Mapper ι) {answer : Json}
    (h : ∀ documents, ¬ Lists answer documents) :
    m.answer answer = .error (.mapping (.unsupportedFormat answer)) := by
  have hnone : documents? answer = none := by
    rw [Option.eq_none_iff_forall_not_mem]
    intro documents hmem
    exact h documents (documents?_eq_some_iff.mp hmem)
  rw [Mapper.answer, hnone]

theorem Mapper.answer_of_hits {ι : Type} (m : Mapper ι) {answer : Json} {hits : List Json}
    (hsource : answer.get? "_source" = none)
    (hhits : answer.path? ["hits", "hits"] = some (.array hits)) :
    m.answer answer = hits.mapM m.document := by
  cases houter : answer.get? "hits" with
  | none => simp [Json.path?, houter] at hhits
  | some outer =>
      have hinner : outer.get? "hits" = some (.array hits) := by
        simpa [Json.path?, houter] using hhits
      exact m.answer_of_lists (.hits hsource houter hinner)

theorem Mapper.answer_of_source {ι : Type} (m : Mapper ι) {answer : Json}
    (hsource : (answer.get? "_source").isSome) :
    m.answer answer = (m.document answer).map fun item => [item] := by
  obtain ⟨source, hsource⟩ := Option.isSome_iff_exists.mp hsource
  rw [m.answer_of_lists (.source hsource)]
  cases hdocument : m.document answer with
  | error e => simp [hdocument, bind, Except.bind, Except.map]
  | ok item => simp [hdocument, bind, Except.bind, Except.map, pure, Except.pure]

theorem Mapper.answer_of_none {ι : Type} (m : Mapper ι) {answer : Json}
    (hsource : answer.get? "_source" = none) (hhits : answer.get? "hits" = none)
    (hdocs : answer.get? "docs" = none) :
    m.answer answer = .error (.mapping (.unsupportedFormat answer)) := by
  apply m.answer_of_unlisted
  intro documents hlists
  cases hlists with
  | source h => cases hsource.symm.trans h
  | hits _ h => cases hhits.symm.trans h
  | noHits _ h => cases hhits.symm.trans h
  | docs _ _ h => cases hdocs.symm.trans h

/-- The number of documents is read from both forms in which engines give it. -/
theorem hitCount_eq {answer total : Json} {count : UInt64}
    (htotal : answer.path? ["hits", "total"] = some total)
    (hcount : total = .natural count ∨ total.get? "value" = some (.natural count)) :
    hitCount answer = count := by
  rw [hitCount, htotal]
  rcases hcount with rfl | hvalue
  · rfl
  · -- Only an object has a value.
    cases total with
    | object fields => simp [Json.asNatural?, hvalue, Json.natural]
    | _ => simp [Json.get?] at hvalue

end SearchStore
