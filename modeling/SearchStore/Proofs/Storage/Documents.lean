import Mathlib.Logic.Function.Basic
import SearchStore.Proofs.Engine.Action
import SearchStore.Proofs.Storage.Address

/-!
# Stored documents as a map

An engine that keeps documents (`KeepsDocuments`) has a view as a map from keys to bodies: each request reads or
writes one entry, and a bulk request writes the entries of its lines in order. On such an engine the calls of
writers are operations on the map (`StorageCall.effect`): `view_perform` says so of one call, and `view_runCalls`
of a run, by induction on the calls. `value_read` says that a reader finds what the map holds.

`storage_refines_map` collects what follows for writers and readers of one target. A batch is written as a whole:
if one of its documents cannot be stored, none is, where writing them one at a time would store the others
(`writeMany_ne_writes`).
-/

namespace SearchStore

/-! ### Maps of documents -/

/-- The bodies of documents by their keys. -/
abbrev DocumentMap := DocumentKey → Option Json

namespace DocumentMap

/-- The map with the body of a document set. -/
def put (m : DocumentMap) (key : DocumentKey) (body : Json) : DocumentMap :=
  Function.update m key (some body)

/-- The map without a document. -/
def remove (m : DocumentMap) (key : DocumentKey) : DocumentMap := Function.update m key none

/-- The map with the bodies of documents set in order. -/
def putAll (m : DocumentMap) (entries : List (DocumentKey × Json)) : DocumentMap :=
  entries.foldl (fun m entry => m.put entry.1 entry.2) m

theorem remove_of_absent {m : DocumentMap} {key : DocumentKey} (h : m key = none) : m.remove key = m := by
  rw [remove, ← h, Function.update_eq_self]

end DocumentMap

/-! ### Engines that keep documents -/

/-- The line of a bulk request that says under which key the next line is kept. -/
def bulkAction (key : DocumentKey) : Json :=
  .object
    [("index",
      .object
        [("_index", .string key.index), ("_type", .string key.docType),
          ("_id", .string key.identifier)])]

/-- The lines of a bulk request that keeps documents. -/
def linesOf (entries : List (DocumentKey × Json)) : List Json :=
  entries.flatMap fun entry => [bulkAction entry.1, entry.2]

/-- The answer to the request for a document that is there. -/
def foundAnswer (key : DocumentKey) (body : Json) : Json :=
  .object [("_id", .string key.identifier), ("found", .bool true), ("_source", body)]

/-- The answers of an engine whose states are seen as maps of documents. -/
structure KeepsDocuments {σ : Type} (engine : Engine σ) (view : σ → DocumentMap) : Prop where
  connect : ∀ s, (engine.connect s).1 = .ok () ∧ view (engine.connect s).2 = view s
  index : ∀ s params key body, Addresses key params → params.get? "body" = some body →
    (∃ answer, (engine.answer ⟨.index, params⟩ s).1 = .ok answer) ∧
      view (engine.answer ⟨.index, params⟩ s).2 = (view s).put key body
  bulk : ∀ s params entries, params.get? "body" = some (.array (linesOf entries)) →
    (∃ answer, (engine.answer ⟨.bulk, params⟩ s).1 = .ok answer ∧
      answer.get? "errors" ≠ some (.bool true)) ∧
      view (engine.answer ⟨.bulk, params⟩ s).2 = (view s).putAll entries
  get : ∀ s params key, Addresses key params →
    view (engine.answer ⟨.get, params⟩ s).2 = view s ∧
      match view s key with
      | some body => (engine.answer ⟨.get, params⟩ s).1 = .ok (foundAnswer key body)
      | none => ∃ resource, (engine.answer ⟨.get, params⟩ s).1 = .error (.notFound resource)
  delete : ∀ s params key, Addresses key params →
    view (engine.answer ⟨.delete, params⟩ s).2 = (view s).remove key ∧
      match view s key with
      | some _ => ∃ answer, (engine.answer ⟨.delete, params⟩ s).1 = .ok answer
      | none => ∃ resource, (engine.answer ⟨.delete, params⟩ s).1 = .error (.notFound resource)

/-! ### Calls on maps -/

/-- Whether a document can be stored: its identifier can be seen, and it has a body. -/
def Document.isStorable (d : Document) : Bool :=
  !Text.isBlank d.identifier && d.body.toBool

/-- The map with a document of the target, unless the document cannot be stored. -/
def Document.storeIn (t : Target) (m : DocumentMap) (d : Document) : DocumentMap :=
  match d.body with
  | .ok body => if Text.isBlank d.identifier then m else m.put (t.key d.identifier) body
  | .error _ => m

/-- A call of a writer. -/
inductive StorageCall where
  | write (document : Document)
  | writeMany (documents : List Document)
  | delete (identifier : String)

namespace StorageCall

/-- What a writer does at a call. -/
def perform (w : Writer) : StorageCall → Action Unit
  | write document => w.write document
  | writeMany documents => w.writeMany documents
  | delete identifier => w.delete identifier

/-- What a call does to a map: documents are stored in order, all of them or none. -/
def effect (t : Target) (m : DocumentMap) : StorageCall → DocumentMap
  | write document => document.storeIn t m
  | writeMany documents =>
    if documents.all Document.isStorable then documents.foldl (Document.storeIn t) m else m
  | delete identifier => if Text.isBlank identifier then m else m.remove (t.key identifier)

/-- Whether a call is refused or ignored. -/
def isRefused : StorageCall → Bool
  | write document => !document.isStorable
  | writeMany documents => !documents.all Document.isStorable
  | delete identifier => Text.isBlank identifier

/-- The identifiers that a call names. -/
def identifiers : StorageCall → List String
  | write document => [document.identifier]
  | writeMany documents => documents.map Document.identifier
  | delete identifier => [identifier]

end StorageCall

/-- A writer of a target, whose configured parameters have no body of their own. -/
structure Writer.WritesTo (w : Writer) (t : Target) : Prop where
  target : w.target = t
  index : (w.config.parameters.layer "index").get? "body" = none
  bulk : (w.config.parameters.layer "bulk").get? "body" = none

variable {σ ι : Type}

/-- The calls of writers, one after the other. -/
def runCalls (engine : Engine σ) (calls : List (Writer × StorageCall)) (s : σ) : σ :=
  calls.foldl (fun s call => ((call.2.perform call.1).execute engine s).state) s

/-! ### Batches -/

theorem Document.isStorable_iff {d : Document} :
    d.isStorable = true ↔ Text.isBlank d.identifier = false ∧ ∃ body, d.body = .ok body := by
  cases hbody : d.body <;> simp [isStorable, hbody, Except.toBool]

theorem Document.storeIn_of_body {d : Document} (hid : Text.isBlank d.identifier = false) {body : Json}
    (hbody : d.body = .ok body) (t : Target) (m : DocumentMap) :
    d.storeIn t m = m.put (t.key d.identifier) body := by
  simp [storeIn, hbody, hid]

theorem Document.storeIn_of_not_storable {d : Document} (hd : d.isStorable = false) (t : Target)
    (m : DocumentMap) : d.storeIn t m = m := by
  cases hbody : d.body with
  | error e => simp [storeIn, hbody]
  | ok body =>
    have hid : Text.isBlank d.identifier = true := by
      simpa [isStorable, hbody, Except.toBool] using hd
    simp [storeIn, hbody, hid]

theorem forM_checkText_eq_ok_iff {documents : List Document} :
    (documents.forM fun d => checkText "identifier" d.identifier) = .ok () ↔
      ∀ d ∈ documents, Text.isBlank d.identifier = false := by
  induction documents with
  | nil => simp [List.forM, pure, Except.pure]
  | cons d rest ih =>
    rw [List.forM, List.forall_mem_cons, ← ih, checkText]
    cases Text.isBlank d.identifier with
    | true => simp [invalidArgument, bind, Except.bind]
    | false => simp [bind, Except.bind]

theorem forM_checkText_of_blank {documents : List Document} {d : Document} (hd : d ∈ documents)
    (hid : Text.isBlank d.identifier = true) :
    (documents.forM fun d => checkText "identifier" d.identifier) =
      invalidArgument "identifier" "must not be blank" := by
  induction documents with
  | nil => cases hd
  | cons first rest ih =>
    rw [List.forM]
    by_cases hfirst : Text.isBlank first.identifier = false
    · have hrest : d ∈ rest := (List.mem_cons.mp hd).resolve_left fun heq => by simp [← heq, hid] at hfirst
      rw [checkText_of_visible _ hfirst, ← ih hrest]
      rfl
    · rw [checkText_of_blank _ hfirst]
      rfl

theorem Writer.bulkLines_of_storable (w : Writer) {documents : List Document}
    (h : ∀ d ∈ documents, d.isStorable = true) :
    ∃ entries, w.bulkLines documents = .ok (linesOf entries) ∧
      ∀ m, documents.foldl (Document.storeIn w.target) m = m.putAll entries := by
  induction documents with
  | nil => exact ⟨[], rfl, fun _ => rfl⟩
  | cons d rest ih =>
    obtain ⟨hd, hrest⟩ := List.forall_mem_cons.mp h
    obtain ⟨hid, body, hbody⟩ := Document.isStorable_iff.mp hd
    obtain ⟨entries, hlines, hstore⟩ := ih hrest
    refine ⟨(w.target.key d.identifier, body) :: entries, ?_, fun m => ?_⟩
    · rw [bulkLines, hbody, hlines]
      rfl
    · rw [List.foldl_cons, d.storeIn_of_body hid hbody, hstore]
      rfl

/-- A batch has no lines if one of its documents has no body. -/
theorem Writer.bulkLines_of_missing (w : Writer) {documents : List Document} {d : Document}
    (hd : d ∈ documents) (hbody : ∀ body, d.body ≠ .ok body) :
    ∃ e, w.bulkLines documents = .error e := by
  induction documents with
  | nil => cases hd
  | cons first rest ih =>
    cases hfirst : first.body with
    | error e => exact ⟨e, by rw [bulkLines, hfirst]; rfl⟩
    | ok body =>
      obtain rfl | hrest := List.mem_cons.mp hd
      · exact absurd hfirst (hbody body)
      · obtain ⟨e, he⟩ := ih hrest
        exact ⟨e, by rw [bulkLines, hfirst, he]; rfl⟩

/-! ### Refused calls -/

theorem execute_forM_lift (engine : Engine σ) (check : ι → Except Error Unit) (items : List ι) (s : σ) :
    (items.forM fun item => (liftM (check item) : Action Unit)).execute engine s =
      { value := items.forM check, state := s } := by
  induction items with
  | nil => rfl
  | cons item rest ih =>
    rw [List.forM, Action.execute_bind, Action.execute_lift, List.forM, Run.andThen]
    cases check item with
    | error e => rfl
    | ok _ => simp only [ih, List.append_nil]; rfl

theorem state_write_of_refused (engine : Engine σ) (w : Writer) {d : Document} (hd : d.isStorable = false)
    (s : σ) : ((w.write d).execute engine s).state = s := by
  by_cases hid : Text.isBlank d.identifier
  · simp [Writer.write, Action.execute_bind, checkText, invalidArgument, hid, Run.andThen]
  · cases hbody : d.body with
    | error e => simp [Writer.write, Action.execute_bind, checkText, hid, hbody, Run.andThen]
    | ok body => simp [Document.isStorable, hid, hbody, Except.toBool] at hd

theorem state_writeBatch_of_refused (engine : Engine σ) (w : Writer) {documents : List Document}
    (hd : documents.all Document.isStorable = false) (s : σ) :
    ((w.writeBatch documents).execute engine s).state = s := by
  rw [Writer.writeBatch, Action.execute_bind, execute_forM_lift, Run.andThen]
  cases hids : documents.forM fun d => checkText "identifier" d.identifier with
  | error e => rfl
  | ok _ =>
    obtain ⟨d, hmem, hd⟩ := List.all_eq_false.mp hd
    have hbody : ∀ body, d.body ≠ .ok body := fun body hbody =>
      hd (Document.isStorable_iff.mpr ⟨forM_checkText_eq_ok_iff.mp hids d hmem, body, hbody⟩)
    obtain ⟨e, he⟩ := w.bulkLines_of_missing hmem hbody
    simp [Action.execute_bind, he, Run.andThen]

/-- A call that is refused or ignored leaves the engine as it is. -/
theorem state_perform_of_refused (engine : Engine σ) (w : Writer) {call : StorageCall}
    (hcall : call.isRefused = true) (s : σ) : ((call.perform w).execute engine s).state = s := by
  cases call with
  | write d => exact state_write_of_refused engine w (by simpa [StorageCall.isRefused] using hcall) s
  | writeMany documents =>
    have hd : documents.all Document.isStorable = false := by
      simpa [StorageCall.isRefused] using hcall
    match documents with
    | [] => rfl
    | [d] => exact state_write_of_refused engine w (by simpa using hd) s
    | first :: second :: rest => exact state_writeBatch_of_refused engine w hd s
  | delete identifier =>
    have hid : Text.isBlank identifier = true := hcall
    simp [StorageCall.perform, Writer.delete, hid]

/-! ### One call -/

section
variable {engine : Engine σ} {view : σ → DocumentMap} (h : KeepsDocuments engine view)
include h

theorem view_write {w : Writer} {t : Target} (hw : w.WritesTo t) (d : Document) (s : σ) :
    view ((w.write d).execute engine s).state = d.storeIn t (view s) := by
  cases hd : d.isStorable with
  | false => rw [state_write_of_refused engine w hd, d.storeIn_of_not_storable hd]
  | true =>
    obtain ⟨hid, body, hbody⟩ := Document.isStorable_iff.mp hd
    obtain ⟨hconnect, hview⟩ := h.connect s
    obtain ⟨⟨answer, hanswer⟩, hput⟩ := h.index (engine.connect s).2 _ _ body
      (w.addresses_indexRequest d.identifier body) (w.body_indexRequest d.identifier hw.index body)
    have hstate : ((w.write d).execute engine s).state =
        (engine.answer ⟨.index, w.indexRequest d.identifier body⟩ (engine.connect s).2).2 := by
      simp [Writer.write, Action.execute_bind, checkText, hid, hbody, Run.andThen, hconnect, hanswer]
    rw [hstate, hput, hview, d.storeIn_of_body hid hbody, hw.target]

theorem view_writeBatch {w : Writer} {t : Target} (hw : w.WritesTo t) (documents : List Document) (s : σ) :
    view ((w.writeBatch documents).execute engine s).state =
      (StorageCall.writeMany documents).effect t (view s) := by
  rw [StorageCall.effect]
  cases hd : documents.all Document.isStorable with
  | false => rw [state_writeBatch_of_refused engine w hd, if_neg (by simp)]
  | true =>
    rw [List.all_eq_true] at hd
    obtain ⟨entries, hlines, hstore⟩ := w.bulkLines_of_storable hd
    obtain ⟨hconnect, hview⟩ := h.connect s
    obtain ⟨⟨answer, hanswer, herrors⟩, hput⟩ := h.bulk (engine.connect s).2 _ entries
      (w.body_bulkRequest hw.bulk (linesOf entries))
    have hids : (documents.forM fun d => checkText "identifier" d.identifier) = .ok () :=
      forM_checkText_eq_ok_iff.mpr fun d hmem => (Document.isStorable_iff.mp (hd d hmem)).1
    have hcheck : Writer.checkBulk answer = .ok () := if_neg herrors
    have hstate : ((w.writeBatch documents).execute engine s).state =
        (engine.answer ⟨.bulk, w.bulkRequest (linesOf entries)⟩ (engine.connect s).2).2 := by
      rw [Writer.writeBatch, Action.execute_bind, execute_forM_lift, hids]
      simp [Action.execute_bind, hlines, Run.andThen, hconnect, hanswer, hcheck]
    rw [hstate, hput, hview, if_pos rfl, ← hw.target, hstore]

theorem view_delete {w : Writer} {t : Target} (hw : w.WritesTo t) (identifier : String) (s : σ) :
    view ((w.delete identifier).execute engine s).state =
      (StorageCall.delete identifier).effect t (view s) := by
  rw [StorageCall.effect]
  cases hid : Text.isBlank identifier with
  | true => simp [Writer.delete, hid]
  | false =>
    obtain ⟨hconnect, hview⟩ := h.connect s
    obtain ⟨hlooked, hlookup⟩ :=
      h.get (engine.connect s).2 _ _ (w.addresses_lookupRequest identifier)
    rw [hview, hw.target] at hlookup
    rw [hview] at hlooked
    rw [if_neg (by simp)]
    cases hbody : view s (t.key identifier) with
    | none =>
      rw [hbody] at hlookup
      obtain ⟨resource, hanswer⟩ := hlookup
      simp [Writer.delete, Action.execute_bind, hid, Run.andThen, hconnect, hanswer, hlooked,
        DocumentMap.remove_of_absent hbody]
    | some body =>
      rw [hbody] at hlookup
      obtain ⟨hremoved, hdelete⟩ :=
        h.delete (engine.answer ⟨.get, w.lookupRequest identifier⟩ (engine.connect s).2).2 _ _
          (w.addresses_deleteRequest identifier)
      rw [hlooked, hw.target] at hremoved
      rw [hlooked, hw.target, hbody] at hdelete
      obtain ⟨answer, hanswer⟩ := hdelete
      simp [Writer.delete, Action.execute_bind, hid, Run.andThen, hconnect, hlookup, hanswer,
        hremoved]

/-- A call of a writer is an operation on the map. -/
theorem view_perform {w : Writer} {t : Target} (hw : w.WritesTo t) (call : StorageCall) (s : σ) :
    view ((call.perform w).execute engine s).state = call.effect t (view s) := by
  cases call with
  | write d => exact view_write h hw d s
  | delete identifier => exact view_delete h hw identifier s
  | writeMany documents =>
    match documents with
    | [] => rfl
    | first :: second :: rest => exact view_writeBatch h hw _ s
    | [d] =>
      rw [StorageCall.perform, Writer.writeMany, view_write h hw, StorageCall.effect]
      cases hd : d.isStorable with
      | true => simp [hd]
      | false => simp [hd, d.storeIn_of_not_storable hd]

theorem view_runCalls {t : Target} {calls : List (Writer × StorageCall)}
    (hcalls : ∀ call ∈ calls, call.1.WritesTo t) (s : σ) :
    view (runCalls engine calls s) =
      calls.foldl (fun m call => call.2.effect t m) (view s) := by
  induction calls generalizing s with
  | nil => rfl
  | cons call rest ih =>
    obtain ⟨hw, hrest⟩ := List.forall_mem_cons.mp hcalls
    rw [runCalls, List.foldl_cons, ← runCalls, ih hrest, view_perform h hw, List.foldl_cons]

/-- A reader finds what the map holds, and nothing where the map is empty. -/
theorem value_read (r : Reader ι) {identifier : String} (hid : Text.isBlank identifier = false) (s : σ) :
    ((r.read identifier).execute engine s).value =
      match view s (r.target.key identifier) with
      | none => .ok none
      | some body => (r.mapper.document (foundAnswer (r.target.key identifier) body)).map some := by
  obtain ⟨hconnect, hview⟩ := h.connect s
  obtain ⟨-, hget⟩ := h.get (engine.connect s).2 _ _ (r.addresses_getRequest identifier)
  rw [hview] at hget
  cases hbody : view s (r.target.key identifier) with
  | none =>
    rw [hbody] at hget
    obtain ⟨resource, hanswer⟩ := hget
    simp [Reader.read, Action.execute_bind, checkText, hid, Run.andThen, hconnect, hanswer]
  | some body =>
    rw [hbody] at hget
    -- The answer says that the document was found, so it goes to the mapper.
    have hfound : (foundAnswer (r.target.key identifier) body).get? "found" ≠ some (.bool false) := by
      simp [foundAnswer, Json.get?, Assoc.get?]
    simp only [Reader.read, Action.execute_bind, checkText, hid, Run.andThen, hconnect, hget, hfound,
      Action.mapError_ok, Action.execute_connect, Action.execute_ask, Action.execute_lift, if_false,
      Bool.false_eq_true]
    cases r.mapper.document (foundAnswer (r.target.key identifier) body) with
    | error e => rfl
    | ok item => rfl

end

/-! ### Other keys -/

theorem Document.storeIn_of_ne {t : Target} {key : DocumentKey} {d : Document}
    (hkey : key ≠ t.key d.identifier) (m : DocumentMap) : d.storeIn t m key = m key := by
  cases hd : d.isStorable with
  | false => rw [d.storeIn_of_not_storable hd]
  | true =>
    obtain ⟨hid, body, hbody⟩ := Document.isStorable_iff.mp hd
    rw [d.storeIn_of_body hid hbody, DocumentMap.put, Function.update_of_ne hkey]

theorem foldl_storeIn_of_ne {t : Target} {key : DocumentKey} {documents : List Document}
    (hkey : ∀ d ∈ documents, key ≠ t.key d.identifier) (m : DocumentMap) :
    documents.foldl (Document.storeIn t) m key = m key := by
  induction documents generalizing m with
  | nil => rfl
  | cons d rest ih =>
    obtain ⟨hd, hrest⟩ := List.forall_mem_cons.mp hkey
    rw [List.foldl_cons, ih hrest, d.storeIn_of_ne hd]

theorem StorageCall.effect_of_ne {t : Target} {key : DocumentKey} (call : StorageCall)
    (hkey : ∀ identifier ∈ call.identifiers, key ≠ t.key identifier) (m : DocumentMap) :
    call.effect t m key = m key := by
  cases call with
  | write d => exact d.storeIn_of_ne (hkey _ (by simp [identifiers])) m
  | writeMany documents =>
    rw [effect]
    split
    · exact foldl_storeIn_of_ne (fun d hd => hkey _ (List.mem_map_of_mem hd)) m
    · rfl
  | delete identifier =>
    rw [effect]
    split
    · rfl
    · exact Function.update_of_ne (hkey _ (by simp [identifiers])) _ _

theorem foldl_effect_of_ne {t : Target} {key : DocumentKey} {calls : List (Writer × StorageCall)}
    (hkey : ∀ call ∈ calls, ∀ identifier ∈ call.2.identifiers, key ≠ t.key identifier)
    (m : DocumentMap) : calls.foldl (fun m call => call.2.effect t m) m key = m key := by
  induction calls generalizing m with
  | nil => rfl
  | cons call rest ih =>
    obtain ⟨hcall, hrest⟩ := List.forall_mem_cons.mp hkey
    rw [List.foldl_cons, ih hrest, call.2.effect_of_ne hcall]

/-- Documents that are written one at a time are stored in order. -/
theorem foldl_effect_write (t : Target) (w : Writer) (documents : List Document) (m : DocumentMap) :
    (documents.map fun d => (w, StorageCall.write d)).foldl (fun m call => call.2.effect t m) m =
      documents.foldl (Document.storeIn t) m := by
  rw [List.foldl_map]
  rfl

/-! ### Runs -/

/-- **Storage is a map.** Writers of one target, with any configured parameters but a body, run calls in any
order on an engine that keeps documents. Then the engine holds what the operations on a map lead to, and keys
that no call names hold what they held. A batch of documents that can all be stored does what writing them one
after the other does. A call that is refused or ignored leaves the engine as it is: an identifier is blank, or a
document of the call has no body. A reader finds nothing at a key where the map is empty, and elsewhere the item
of the last body. -/
theorem storage_refines_map {engine : Engine σ} {view : σ → DocumentMap}
    (h : KeepsDocuments engine view) (t : Target) (calls : List (Writer × StorageCall))
    (hcalls : ∀ call ∈ calls, call.1.WritesTo t) (s : σ) :
    let m := calls.foldl (fun m call => call.2.effect t m) (view s)
    let after := runCalls engine calls s
    view after = m ∧
    (∀ key : DocumentKey,
      (∀ call ∈ calls, ∀ identifier ∈ call.2.identifiers, key ≠ t.key identifier) →
        view after key = view s key) ∧
    (∀ w : Writer, w.WritesTo t →
      (∀ documents : List Document, (∀ d ∈ documents, d.isStorable = true) →
        view (runCalls engine [(w, .writeMany documents)] after) =
          view (runCalls engine (documents.map fun d => (w, .write d)) after)) ∧
      ∀ call : StorageCall, call.isRefused = true → runCalls engine [(w, call)] after = after) ∧
    ∀ (r : Reader ι) (identifier : String), r.target = t → Text.isBlank identifier = false →
      ((r.read identifier).execute engine after).value =
        match m (t.key identifier) with
        | none => .ok none
        | some body => (r.mapper.document (foundAnswer (t.key identifier) body)).map some := by
  intro m after
  have hafter : view after = m := view_runCalls h hcalls s
  refine ⟨hafter, fun key hkey => ?_, fun w hw => ⟨fun documents hdocuments => ?_, ?_⟩, ?_⟩
  · rw [hafter]
    exact foldl_effect_of_ne hkey _
  · have hwrites : ∀ call ∈ documents.map fun d => (w, StorageCall.write d), call.1.WritesTo t := by
      simp [hw]
    rw [view_runCalls h (by simpa using hw), view_runCalls h hwrites, foldl_effect_write,
      List.foldl_cons, List.foldl_nil, StorageCall.effect, if_pos (List.all_eq_true.mpr hdocuments)]
  · intro call hcall
    exact state_perform_of_refused engine w hcall after
  · intro r identifier htarget hid
    rw [value_read h r hid, htarget, hafter]

/-! ### An engine that is a map -/

/-- The key that parameters name. -/
def keyOf? (indexKey typeKey identifierKey : String) (params : Json) : Option DocumentKey := do
  let index ← (params.get? indexKey).bind Json.asString?
  let docType ← (params.get? typeKey).bind Json.asString?
  let identifier ← (params.get? identifierKey).bind Json.asString?
  some { index, docType, identifier }

/-- The entries of the lines of a bulk request. -/
def entriesOf : List Json → List (DocumentKey × Json)
  | action :: body :: rest =>
    match (action.get? "index").bind (keyOf? "_index" "_type" "_id") with
    | some key => (key, body) :: entriesOf rest
    | none => entriesOf rest
  | _ => []

/-- The engine whose states are maps of documents. -/
def mapEngine : Engine DocumentMap where
  connect m := (.ok (), m)
  answer call m :=
    match call.method, keyOf? "index" "type" "id" call.params with
    | .bulk, _ =>
      let lines := ((call.params.get? "body").bind Json.asArray?).getD []
      (.ok (.object [("errors", .bool false)]), m.putAll (entriesOf lines))
    | .index, some key => (.ok .empty, m.put key ((call.params.get? "body").getD .null))
    | .get, some key =>
      match m key with
      | some body => (.ok (foundAnswer key body), m)
      | none => (.error (.notFound key.identifier), m)
    | .delete, some key =>
      match m key with
      | some _ => (.ok .empty, m.remove key)
      | none => (.error (.notFound key.identifier), m)
    | _, _ => (.error (.status 400 "unsupported"), m)

theorem entriesOf_linesOf (entries : List (DocumentKey × Json)) : entriesOf (linesOf entries) = entries := by
  induction entries with
  | nil => rfl
  | cons entry rest ih =>
    rw [linesOf, List.flatMap_cons, ← linesOf]
    simp [entriesOf, bulkAction, keyOf?, Json.get?, Assoc.get?, Json.asString?, ih]

theorem Addresses.keyOf?_eq {key : DocumentKey} {params : Json} (h : Addresses key params) :
    keyOf? "index" "type" "id" params = some key := by
  simp [keyOf?, h.index, h.docType, h.identifier, Json.asString?]

theorem keepsDocuments_mapEngine : KeepsDocuments mapEngine id where
  connect _ := ⟨rfl, rfl⟩
  index m params key body hkey hbody := by
    simp [mapEngine, hkey.keyOf?_eq, hbody]
  bulk m params entries hbody := by
    refine ⟨⟨_, rfl, by decide⟩, ?_⟩
    simp [mapEngine, hbody, Json.asArray?, entriesOf_linesOf]
  get m params key hkey := by
    cases hm : m key <;> simp [mapEngine, hkey.keyOf?_eq, hm]
  delete m params key hkey := by
    cases hm : m key <;> simp [mapEngine, hkey.keyOf?_eq, hm, DocumentMap.remove_of_absent]

/-- Two writers of one target, one with configured parameters, store, overwrite and delete documents. -/
theorem storage_refines_map_shared :
    let t : Target := ⟨⟨["news"]⟩, ⟨["text"]⟩⟩
    let parameters : MethodParameters :=
      ⟨[("index", [("refresh", .bool true), ("id", .array [])]), ("bulk", [("index", .null)])]⟩
    let w : Writer := { connector := {}, config := {}, target := t }
    let other : Writer := { connector := {}, config := { parameters }, target := t }
    let r : Reader Json := { connector := {}, config := {}, target := t, mapper := .source }
    let document (identifier text : String) : Document := ⟨identifier, .ok (.string text)⟩
    let calls : List (Writer × StorageCall) :=
      [(w, .write (document "a" "one")),
        (other, .writeMany [document "a" "two", document "b" "three", document "a" "four"]),
        (other, .write (document " " "five")), (w, .delete "b")]
    let after := runCalls mapEngine calls fun _ => none
    (∀ call ∈ calls, call.1.WritesTo t) ∧
    ((r.read "a").execute mapEngine after).value = .ok (some (.string "four")) ∧
    ((r.read "b").execute mapEngine after).value = .ok none := by
  intro t parameters w other r document calls after
  have hw : w.WritesTo t := ⟨rfl, rfl, rfl⟩
  have hother : other.WritesTo t := ⟨rfl, rfl, rfl⟩
  have hcalls : ∀ call ∈ calls, call.1.WritesTo t := by
    simp [calls, hw, hother]
  have hread := (storage_refines_map keepsDocuments_mapEngine t calls hcalls fun _ => none).2.2.2 r
  have hlast : calls.foldl (fun m call => call.2.effect t m) (fun _ => none) (t.key "a") =
      some (.string "four") := by
    decide +kernel
  have hgone : calls.foldl (fun m call => call.2.effect t m) (fun _ => none) (t.key "b") = none := by
    decide +kernel
  refine ⟨hcalls, ?_, ?_⟩
  · rw [hread "a" rfl (by decide), id, hlast]
    rfl
  · rw [hread "b" rfl (by decide), id, hgone]

/-- A batch with a document that has no body is not stored at all, where its other documents can be written one
at a time; and a blank identifier is refused by a reader, though nothing is stored under it. -/
theorem writeMany_ne_writes :
    let t : Target := ⟨⟨["news"]⟩, ⟨["text"]⟩⟩
    let w : Writer := { connector := {}, config := {}, target := t }
    let r : Reader Json := { connector := {}, config := {}, target := t, mapper := .source }
    let first : Document := ⟨"a", .ok (.string "one")⟩
    let second : Document := ⟨"b", .error (.mapping (.invalidDocument "b" "broken"))⟩
    let empty : DocumentMap := fun _ => none
    w.WritesTo t ∧ Text.isBlank first.identifier = false ∧ Text.isBlank second.identifier = false ∧
    runCalls mapEngine [(w, .writeMany [first, second])] empty (t.key "a") = none ∧
    runCalls mapEngine [(w, .write first), (w, .write second)] empty (t.key "a") =
      some (.string "one") ∧
    empty (t.key " ") = none ∧ ((r.read " ").execute mapEngine empty).value ≠ .ok none := by
  refine ⟨⟨rfl, rfl, rfl⟩, by decide, by decide, ?_, ?_, rfl, ?_⟩
  · decide +kernel
  · decide +kernel
  · nofun

end SearchStore
