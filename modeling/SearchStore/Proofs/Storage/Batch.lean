import SearchStore.Proofs.Json.Layers
import SearchStore.Proofs.Storage.Operations

/-!
# Batches of documents

A batch of two documents or more goes out in one request or not at all. What is wrong with it is found before the
engine is asked (`BatchFault`): a blank identifier, wherever it stands, or else the first body that is missing. The
request of any other batch has two lines for each document, the header at an even place and the body behind it
(`PairsLines`), and nothing else but a configured list in front of them (`body_bulkRequest_configured`).

`writeMany_together` collects this with what becomes of smaller batches.
-/

namespace SearchStore

open SearchStore.Action (Asks Settles)

variable {σ : Type}

/-! ### Faults of batches -/

/-- What is wrong with a batch. A blank identifier counts before any body that is missing. -/
inductive BatchFault (documents : List Document) : Error → Prop where
  | blank {d : Document} : d ∈ documents → Text.isBlank d.identifier = true →
      BatchFault documents (.validation (.argument "identifier" "must not be blank"))
  | missing {before after : List Document} {d : Document} {e : Error} : documents = before ++ d :: after →
      (∀ other ∈ documents, Text.isBlank other.identifier = false) →
      (∀ other ∈ before, ∃ body, other.body = .ok body) → d.body = .error e → BatchFault documents e

theorem exists_batchFault {documents : List Document} (h : ∃ d ∈ documents, d.isStorable = false) :
    ∃ e, BatchFault documents e := by
  by_cases hids : ∀ d ∈ documents, Text.isBlank d.identifier = false
  · -- A document that cannot be stored has no body here, so one of them is the first without.
    have hmissing : (documents.find? fun d => !d.body.toBool).isSome := by
      obtain ⟨d, hd, hstorable⟩ := h
      rw [List.find?_isSome]
      refine ⟨d, hd, ?_⟩
      simpa [Document.isStorable, hids d hd] using hstorable
    obtain ⟨d, hd⟩ := Option.isSome_iff_exists.mp hmissing
    obtain ⟨hbody, before, after, hsplit, hbefore⟩ := List.find?_eq_some_iff_append.mp hd
    obtain ⟨e, he⟩ : ∃ e, d.body = .error e := by
      cases hd : d.body with
      | ok body => simp [hd, Except.toBool] at hbody
      | error e => exact ⟨e, rfl⟩
    refine ⟨e, .missing hsplit hids ?_ he⟩
    intro other hother
    have hpresent := hbefore other hother
    cases hbody : other.body with
    | ok body => exact ⟨body, rfl⟩
    | error e => simp [hbody, Except.toBool] at hpresent
  · obtain ⟨d, hd, hid⟩ : ∃ d ∈ documents, Text.isBlank d.identifier = true := by
      simpa using hids
    exact ⟨_, .blank hd hid⟩

namespace Writer

variable (w : Writer)

/-! ### Lines of batches -/

/-- The lines pair each document, in order, with the header of its key: the header comes first. -/
structure PairsLines (documents : List Document) (lines : List Json) : Prop where
  length_eq : lines.length = 2 * documents.length
  header : ∀ i d, documents[i]? = some d → lines[2 * i]? = some (bulkAction (w.target.key d.identifier))
  body : ∀ i d, documents[i]? = some d → ∃ body, d.body = .ok body ∧ lines[2 * i + 1]? = some body

theorem pairsLines_of_bulkLines {documents : List Document} {lines : List Json}
    (h : w.bulkLines documents = .ok lines) : w.PairsLines documents lines := by
  induction documents generalizing lines with
  | nil =>
    obtain rfl := Except.ok.inj h
    exact ⟨rfl, by simp, by simp⟩
  | cons first rest ih =>
    rw [bulkLines] at h
    obtain ⟨body, hbody, h⟩ := exists_of_bind_eq_ok h
    obtain ⟨later, hlater, h⟩ := exists_of_bind_eq_ok h
    obtain rfl := Except.ok.inj h
    have hrest := ih hlater
    have hnext : ∀ i, 2 * (i + 1) = 2 * i + 1 + 1 := by
      intro i
      omega
    refine ⟨?_, ?_, ?_⟩
    · have hlength := hrest.length_eq
      simp only [List.length_cons]
      omega
    · intro i d hd
      cases i with
      | zero =>
        obtain rfl : first = d := by simpa using hd
        rfl
      | succ i =>
        rw [hnext, List.getElem?_cons_succ, List.getElem?_cons_succ]
        exact hrest.header i d (by simpa using hd)
    · intro i d hd
      cases i with
      | zero =>
        obtain rfl : first = d := by simpa using hd
        exact ⟨body, hbody, rfl⟩
      | succ i =>
        rw [hnext, List.getElem?_cons_succ, List.getElem?_cons_succ]
        exact hrest.body i d (by simpa using hd)

/-- The lines of a batch fail with the first body that is missing. -/
theorem bulkLines_of_first_missing {before after : List Document} {d : Document} {e : Error}
    (hbefore : ∀ other ∈ before, ∃ body, other.body = .ok body) (hd : d.body = .error e) :
    w.bulkLines (before ++ d :: after) = .error e := by
  induction before with
  | nil =>
    rw [List.nil_append, bulkLines, hd]
    rfl
  | cons first rest ih =>
    obtain ⟨⟨body, hbody⟩, hrest⟩ := List.forall_mem_cons.mp hbefore
    rw [List.cons_append, bulkLines, hbody, ih hrest]
    rfl

/-- The configured parameters of a method. -/
def configured (method : String) : Fields := (Assoc.get? method w.config.parameters.methods).getD []

/-- The request of a batch carries its lines behind those of a configured list; any other configured body is gone. -/
theorem body_bulkRequest_configured (hunique : (Assoc.keys (w.configured "bulk")).Nodup) (lines : List Json) :
    (w.bulkRequest lines).get? "body" =
      some (.array (Json.listItems (Assoc.get? "body" (w.configured "bulk")) ++ lines)) := by
  have hsource : Json.Carries (.array lines) ["body"] (.object [("body", .array lines)]) :=
    .there (by simp [Assoc.keys]) rfl .here
  have hlayers := Json.path?_layers_array hsource (.object (w.configured "bulk"))
  rw [Json.path?_layer hunique, Json.path?_single, Json.path?_single] at hlayers
  exact hlayers

/-! ### Whole batches -/

theorem writeMany_eq_writeBatch {documents : List Document} (h : 2 ≤ documents.length) :
    w.writeMany documents = w.writeBatch documents := by
  match documents with
  | [] => simp at h
  | [d] => simp at h
  | first :: second :: rest => rfl

/-- What becomes of a batch: it is refused with its fault before the engine is asked, or it is one request. -/
structure StoresTogether (documents : List Document) : Prop where
  refused : (∃ d ∈ documents, d.isStorable = false) →
    ∃ e, BatchFault documents e ∧ Settles (w.writeMany documents) (.error e)
  sent : (∀ d ∈ documents, d.isStorable = true) →
    ∃ lines, w.PairsLines documents lines ∧
      (w.bulkRequest lines).get? "body" =
        some (.array (Json.listItems (Assoc.get? "body" (w.configured "bulk")) ++ lines)) ∧
      Asks (w.writeMany documents) ⟨.bulk, w.bulkRequest lines⟩ storedBatch

theorem settles_writeBatch_of_fault {documents : List Document} {e : Error} (h : BatchFault documents e) :
    Settles (w.writeBatch documents) (.error e) := by
  cases h with
  | blank hd hid => exact w.settles_writeBatch_of_blank hd hid
  | missing hsplit hids hbefore hd =>
    apply w.settles_writeBatch_of_missing hids
    rw [hsplit]
    exact w.bulkLines_of_first_missing hbefore hd

theorem storesTogether (hunique : (Assoc.keys (w.configured "bulk")).Nodup) {documents : List Document}
    (h : 2 ≤ documents.length) : w.StoresTogether documents := by
  have hbatch := w.writeMany_eq_writeBatch h
  constructor
  · intro hfault
    obtain ⟨e, he⟩ := exists_batchFault hfault
    rw [hbatch]
    exact ⟨e, he, w.settles_writeBatch_of_fault he⟩
  · intro hstorable
    obtain ⟨entries, hlines, -⟩ := w.bulkLines_of_storable hstorable
    have hids := fun d hd => (Document.isStorable_iff.mp (hstorable d hd)).1
    rw [hbatch]
    exact ⟨linesOf entries, w.pairsLines_of_bulkLines hlines, w.body_bulkRequest_configured hunique _,
      w.asks_writeBatch hids hlines⟩

/-- A batch of one document makes the request that stores it, or none. -/
theorem calls_writeMany_single (engine : Engine σ) (state : σ) (d : Document) :
    ((w.writeMany [d]).execute engine state).calls = [] ∨
      ∃ body, d.body = .ok body ∧
        ((w.writeMany [d]).execute engine state).calls = [⟨.index, w.indexRequest d.identifier body⟩] := by
  by_cases hd : d.isStorable = true
  · obtain ⟨hid, body, hbody⟩ := Document.isStorable_iff.mp hd
    obtain ⟨events, hrun⟩ := w.asks_write hid hbody σ engine state
    have hsame : (w.writeMany [d]).execute engine state = (w.write d).execute engine state := rfl
    rw [hsame, hrun]
    cases hconnect : (engine.connect state).1 with
    | error e => exact .inl (by rw [exchange_of_error hconnect])
    | ok _ => exact .inr ⟨body, hbody, by rw [exchange_of_ok hconnect]⟩
  · obtain ⟨e, hsettles⟩ := w.settles_write (Bool.not_eq_true _ ▸ hd)
    exact .inl (hsettles.calls_eq_nil engine state)

end Writer

/-- **A batch is stored in one request or not at all.** Of two documents or more: if an identifier is blank or a body
is missing, nothing reaches the engine and the fault is returned, a blank identifier before any missing body.
Otherwise all that is done with the engine is to open the connection and to make one bulk request, whose body ends in
the header and the body of each document, in order and with repetitions, and starts with a configured list if there
is one. A batch of one document makes at most the one request that stores it, and an empty one makes none. -/
theorem writeMany_together (w : Writer) (hunique : (Assoc.keys (w.configured "bulk")).Nodup) :
    (∀ documents : List Document, 2 ≤ documents.length → w.StoresTogether documents) ∧
    ∀ (engine : Engine σ) (state : σ),
      (∀ d, ((w.writeMany [d]).execute engine state).calls = [] ∨
        ∃ body, d.body = .ok body ∧
          ((w.writeMany [d]).execute engine state).calls = [⟨.index, w.indexRequest d.identifier body⟩]) ∧
      ((w.writeMany []).execute engine state).calls = [] := by
  constructor
  · intro documents h
    exact w.storesTogether hunique h
  · intro engine state
    exact ⟨w.calls_writeMany_single engine state, rfl⟩

/-- A document that stands in a batch twice has its lines twice, behind the configured one. A blank identifier at the
end of a batch counts before a missing body in front. -/
theorem writeMany_together_repeated :
    let w : Writer :=
      { connector := {}, target := ⟨⟨["news"]⟩, ⟨["text"]⟩⟩
        config := { parameters := ⟨[("bulk", [("refresh", .bool true), ("body", .array [.null])])]⟩ } }
    let one : Document := ⟨"a", .ok (.string "one")⟩
    let broken : Document := ⟨"b", .error (.mapping (.invalidDocument "b" "broken"))⟩
    let blank : Document := ⟨" ", .ok .null⟩
    (Assoc.keys (w.configured "bulk")).Nodup ∧
    (∃ lines, lines[3]? = some (.string "one") ∧
      ((w.writeMany [one, one]).execute Script.engine {}).calls = [⟨.bulk, w.bulkRequest lines⟩] ∧
      (w.bulkRequest lines).get? "body" = some (.array ([.null] ++ lines))) ∧
    ∃ e, BatchFault [broken, blank] e ∧ ((w.writeMany [broken, blank]).execute Script.engine {}).value = .error e := by
  intro w one broken blank
  have hunique : (Assoc.keys (w.configured "bulk")).Nodup := by decide
  obtain ⟨hbatch, -⟩ := writeMany_together (σ := Script) w hunique
  refine ⟨hunique, ?_, ?_⟩
  · have hstorable : ∀ d ∈ [one, one], d.isStorable = true := by decide
    obtain ⟨lines, hlines, hbody, hasks⟩ := (hbatch [one, one] (by decide)).sent hstorable
    obtain ⟨body, hone, hlast⟩ := hlines.body 1 one rfl
    obtain rfl := Except.ok.inj hone
    obtain ⟨events, hrun⟩ := hasks Script Script.engine {}
    have hconnect : (Script.engine.connect {}).1 = .ok () := rfl
    refine ⟨lines, hlast, ?_, hbody⟩
    rw [hrun, exchange_of_ok hconnect]
  · obtain ⟨e, hfault, hsettles⟩ := (hbatch [broken, blank] (by decide)).refused ⟨blank, by simp, by decide⟩
    exact ⟨e, hfault, hsettles.value_eq Script.engine {}⟩

end SearchStore
