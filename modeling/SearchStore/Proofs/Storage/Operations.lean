import SearchStore.Proofs.Engine.Replies
import SearchStore.Proofs.Finder.Lookup
import SearchStore.Proofs.Storage.Documents

/-!
# What operations of readers and writers ask

Reading one document or a page asks one call if the arguments pass (`asksIf_read`, `asksIf_readItems`), and so do the
operations that store documents (`exists_asksIf_write`, `exists_asksIf_writeBatch`). A deletion is the one operation
with two calls: it deletes what it found (`replies_delete`), and what is missing at either of them is taken for deleted
(`value_delete`).
-/

namespace SearchStore

open SearchStore.Action (Asks AsksIf Settles)

variable {ι σ : Type}

/-! ### Readers -/

namespace Reader

variable (r : Reader ι)

theorem asksIf_read (identifier : String) :
    AsksIf (r.read identifier) (Text.isBlank identifier = false) ⟨.get, r.getRequest identifier⟩ r.readOf where
  asks h := r.asks_read (checkText_of_visible _ h)
  settles h := ⟨_, r.settles_read (checkText_of_blank _ h)⟩

/-- The items of an answer and the number of all documents. -/
def fetchedItems (answer : Json) : Except Error (List ι × UInt64) :=
  (r.mapper.answer answer).bind fun items => .ok (items, hitCount answer)

theorem asks_fetch (request : Json) :
    Asks (r.fetch request) ⟨.search, request⟩ (fun reply => (reply.mapError .engine).bind r.fetchedItems) := by
  unfold fetch
  apply Action.asks_connect_send
  intro answer
  exact (Action.settles_lift (r.mapper.answer answer)).bind fun items => Action.settles_pure _

theorem run_turn_items (limit : UInt64) (request : Json) (engine : Engine σ) (state : σ) :
    (Prod.fst <$> r.turn limit request).run engine state =
      ((r.fetch request).execute engine state).map (Except.map Prod.fst) := by
  rw [Access.run_map, turn, Access.run_bind, ← Action.execute]
  obtain ⟨value, after, calls, events⟩ := (r.fetch request).execute engine state
  cases value with
  | ok page => simp [Access.run, Run.map, Except.map, pure]
  | error e => simp [Access.run, Run.map, Except.map, pure]

theorem asks_turn (limit : UInt64) (request : Json) :
    Asks (ExceptT.mk (Prod.fst <$> r.turn limit request)) ⟨.search, request⟩
      (fun reply => ((reply.mapError .engine).bind r.fetchedItems).map Prod.fst) := by
  intro σ engine state
  obtain ⟨events, hfetch⟩ := r.asks_fetch request σ engine state
  refine ⟨events, ?_⟩
  rw [← map_exchange, ← hfetch]
  exact r.run_turn_items limit request engine state

/-- What `readAll` reads, without the reader that goes on. -/
def readItems (settings : PageSettings) : Action (List ι) :=
  ExceptT.mk (Prod.fst <$> r.readAll settings)

theorem execute_readItems (settings : PageSettings) (engine : Engine σ) (state : σ) :
    (r.readItems settings).execute engine state = ((r.readAll settings).run engine state).map Prod.fst :=
  Access.run_map Prod.fst engine (r.readAll settings) state

/-- The request that `readAll` asks: for the first page, or for the one at the offset. -/
def pageRequest (settings : PageSettings) : Json :=
  let limit := settings.limit.getD r.config.limit
  if settings.first then r.firstRequest limit else r.nextRequest limit

/-- Nothing is left to read at the offset zero, unless reading starts over. -/
theorem asksIf_readItems (settings : PageSettings) :
    AsksIf (r.readItems settings) (settings.first = true ∨ r.offset ≠ 0)
      ⟨.search, r.pageRequest settings⟩
      (fun reply => ((reply.mapError .engine).bind r.fetchedItems).map Prod.fst) where
  asks h := by
    unfold readItems readAll pageRequest
    cases hfirst : settings.first with
    | true => exact asks_turn { r with offset := 0 } _ _
    | false =>
      have hoffset : r.offset ≠ 0 := h.resolve_left (by simp [hfirst])
      simp only [Bool.false_eq_true, if_false, if_neg hoffset]
      exact r.asks_turn _ _
  settles h := by
    obtain ⟨hfirst, hoffset⟩ := not_or.mp h
    unfold readItems readAll
    simp only [if_neg hfirst, if_pos (not_not.mp hoffset)]
    exact ⟨.ok [], Action.settles_pure []⟩

theorem makesOne_readAll (settings : PageSettings) :
    (r.readAll settings).MakesOne (settings.first = true ∨ r.offset ≠ 0) ⟨.search, r.pageRequest settings⟩ := by
  have hitems := (r.asksIf_readItems settings).makesOne
  have hcalls : ∀ (σ : Type) (engine : Engine σ) (state : σ),
      ((r.readItems settings).run.run engine state).calls = ((r.readAll settings).run engine state).calls :=
    fun σ engine state => congrArg Run.calls (r.execute_readItems settings engine state)
  constructor
  · intro σ engine state other hother
    exact hitems.only σ engine state other (hcalls σ engine state ▸ hother)
  · intro hvalid σ engine state hconnect
    rw [← hcalls]
    exact hitems.once hvalid σ engine state hconnect

end Reader

/-! ### Storing documents -/

namespace Writer

variable (w : Writer)

/-- What the reply to a request that stores one document comes to. -/
def stored (reply : Reply) : Except Error Unit :=
  (reply.mapError .engine).bind fun _ => .ok ()

/-- What the reply to a request that stores many documents comes to. -/
def storedBatch (reply : Reply) : Except Error Unit :=
  (reply.mapError .engine).bind checkBulk

theorem asks_write {d : Document} (hid : Text.isBlank d.identifier = false) {body : Json} (hbody : d.body = .ok body) :
    Asks (w.write d) ⟨.index, w.indexRequest d.identifier body⟩ stored := by
  unfold write
  rw [checkText_of_visible _ hid, hbody]
  apply (Action.settles_lift (.ok ())).asks
  apply (Action.settles_lift (.ok body)).asks
  apply Action.asks_connect_send
  intro answer
  exact Action.settles_debug _

theorem settles_write {d : Document} (hd : d.isStorable = false) : ∃ e, Settles (w.write d) (.error e) := by
  unfold write
  by_cases hid : Text.isBlank d.identifier = false
  · cases hbody : d.body with
    | ok body =>
      have hstorable : d.isStorable = true := Document.isStorable_iff.mpr ⟨hid, body, hbody⟩
      rw [hstorable] at hd
      cases hd
    | error e =>
      rw [checkText_of_visible _ hid]
      exact ⟨e, (Action.settles_lift (.ok ())).bind_ok ((Action.settles_lift (.error e)).bind_error _)⟩
  · rw [checkText_of_blank _ hid]
    exact ⟨_, (Action.settles_lift (invalidArgument "identifier" "must not be blank")).bind_error _⟩

theorem settles_forM_lift (check : ι → Except Error Unit) (items : List ι) :
    Settles (items.forM fun item => (liftM (check item) : Action Unit)) (items.forM check) := by
  intro σ engine state
  exact ⟨[], execute_forM_lift engine check items state⟩

theorem asks_writeBatch {documents : List Document} (hids : ∀ d ∈ documents, Text.isBlank d.identifier = false)
    {lines : List Json} (hlines : w.bulkLines documents = .ok lines) :
    Asks (w.writeBatch documents) ⟨.bulk, w.bulkRequest lines⟩ storedBatch := by
  have hchecks := settles_forM_lift (fun d : Document => checkText "identifier" d.identifier) documents
  rw [forM_checkText_eq_ok_iff.mpr hids] at hchecks
  unfold writeBatch
  rw [hlines]
  apply hchecks.asks
  apply (Action.settles_lift (.ok lines)).asks
  apply Action.asks_connect_send
  intro answer
  have hchecked := (Action.settles_lift (checkBulk answer)).bind fun _ =>
    Action.settles_debug ("Bulk indexed " ++ toString documents.length ++ " documents into " ++ w.target.render)
  have hsame : (checkBulk answer).bind (fun _ => .ok ()) = checkBulk answer := by
    cases checkBulk answer <;> rfl
  rw [hsame] at hchecked
  exact hchecked

theorem settles_writeBatch_of_blank {documents : List Document} {d : Document} (hd : d ∈ documents)
    (hid : Text.isBlank d.identifier = true) :
    Settles (w.writeBatch documents) (invalidArgument "identifier" "must not be blank") := by
  have hchecks := settles_forM_lift (fun d : Document => checkText "identifier" d.identifier) documents
  rw [forM_checkText_of_blank hd hid] at hchecks
  unfold writeBatch
  exact hchecks.bind_error _

/-- Without a blank identifier, a batch fails as its lines do. -/
theorem settles_writeBatch_of_missing {documents : List Document}
    (hids : ∀ d ∈ documents, Text.isBlank d.identifier = false) {e : Error} (hlines : w.bulkLines documents = .error e) :
    Settles (w.writeBatch documents) (.error e) := by
  have hchecks := settles_forM_lift (fun d : Document => checkText "identifier" d.identifier) documents
  rw [forM_checkText_eq_ok_iff.mpr hids] at hchecks
  unfold writeBatch
  rw [hlines]
  exact hchecks.bind_ok ((Action.settles_lift (.error e)).bind_error _)

theorem settles_writeBatch {documents : List Document} (h : ¬ ∀ d ∈ documents, d.isStorable = true) :
    ∃ e, Settles (w.writeBatch documents) (.error e) := by
  by_cases hids : ∀ d ∈ documents, Text.isBlank d.identifier = false
  · obtain ⟨d, hd, hstorable⟩ : ∃ d ∈ documents, ¬ d.isStorable = true := by
      simpa using h
    have hbody : ∀ body, d.body ≠ .ok body := by
      intro body hbody
      exact hstorable (Document.isStorable_iff.mpr ⟨hids d hd, body, hbody⟩)
    obtain ⟨e, hlines⟩ := w.bulkLines_of_missing hd hbody
    exact ⟨e, w.settles_writeBatch_of_missing hids hlines⟩
  · obtain ⟨d, hd, hid⟩ : ∃ d ∈ documents, Text.isBlank d.identifier = true := by
      simpa using hids
    exact ⟨_, w.settles_writeBatch_of_blank hd hid⟩

/-- A document that cannot be stored is not sent, so its request does not matter. -/
theorem exists_asksIf_write (d : Document) : ∃ body,
    AsksIf (w.write d) (d.isStorable = true) ⟨.index, w.indexRequest d.identifier body⟩ stored := by
  by_cases hd : d.isStorable = true
  · obtain ⟨hid, body, hbody⟩ := Document.isStorable_iff.mp hd
    exact ⟨body, fun _ => w.asks_write hid hbody, fun h => absurd hd h⟩
  · obtain ⟨e, hsettles⟩ := w.settles_write (Bool.not_eq_true _ ▸ hd)
    exact ⟨.null, fun h => absurd h hd, fun _ => ⟨.error e, hsettles⟩⟩

theorem exists_asksIf_writeBatch (documents : List Document) : ∃ lines,
    AsksIf (w.writeBatch documents) (∀ d ∈ documents, d.isStorable = true) ⟨.bulk, w.bulkRequest lines⟩
      storedBatch := by
  by_cases hstorable : ∀ d ∈ documents, d.isStorable = true
  · obtain ⟨entries, hlines, -⟩ := w.bulkLines_of_storable hstorable
    have hids := fun d hd => (Document.isStorable_iff.mp (hstorable d hd)).1
    exact ⟨_, fun _ => w.asks_writeBatch hids hlines, fun h => absurd hstorable h⟩
  · obtain ⟨e, hsettles⟩ := w.settles_writeBatch hstorable
    exact ⟨[], fun h => absurd h hstorable, fun _ => ⟨.error e, hsettles⟩⟩

theorem reports_write (d : Document) : (w.write d).Reports (d.isStorable = true) handedOn := by
  obtain ⟨body, hasks⟩ := w.exists_asksIf_write d
  have hdata : Method.ReadsData .index := by decide
  exact hasks.reports hdata fun _ => rfl

theorem reports_writeBatch (documents : List Document) :
    (w.writeBatch documents).Reports (∀ d ∈ documents, d.isStorable = true) handedOn := by
  obtain ⟨lines, hasks⟩ := w.exists_asksIf_writeBatch documents
  have hdata : Method.ReadsData .bulk := by decide
  exact hasks.reports hdata fun _ => rfl

theorem reports_writeMany (documents : List Document) :
    (w.writeMany documents).Reports (documents ≠ [] ∧ ∀ d ∈ documents, d.isStorable = true) handedOn := by
  match documents with
  | [] => exact (Action.settles_pure ()).reports (by simp) _
  | [d] => exact (w.reports_write d).mono fun h => h.2 d (by simp)
  | first :: second :: rest => exact (w.reports_writeBatch (first :: second :: rest)).mono And.right

/-! ### Deleting documents -/

/-- The call that looks for a document. -/
def lookup (identifier : String) : Call := ⟨.get, w.lookupRequest identifier⟩

/-- The call that deletes a document. -/
def removal (identifier : String) : Call := ⟨.delete, w.deleteRequest identifier⟩

/-- What the reply to the removal of a document comes to. -/
def removed : Reply → Except Error Unit
  | .ok _ => .ok ()
  | .error e => absentAs () e

theorem settles_delete {identifier : String} (h : Text.isBlank identifier = true) :
    Settles (w.delete identifier) (.ok ()) := by
  unfold delete
  rw [if_pos h]
  exact Action.settles_report _

section
variable {identifier : String} (hid : Text.isBlank identifier = false) {engine : Engine σ} {state : σ}
include hid

theorem replies_delete_of_disconnected {e : EngineError} (hconnect : (engine.connect state).1 = .error e) :
    (w.delete identifier).replies engine state = [] := by
  unfold delete
  rw [if_neg (by simp [hid]), Action.replies_connect_bind, hconnect]

theorem replies_delete (hconnect : (engine.connect state).1 = .ok ()) :
    let looked := engine.answer (w.lookup identifier) (engine.connect state).2
    (w.delete identifier).replies engine state =
      (w.lookup identifier, looked.1) ::
        match looked.1 with
        | .ok _ => [(w.removal identifier, (engine.answer (w.removal identifier) looked.2).1)]
        | .error _ => [] := by
  intro looked
  unfold delete
  rw [if_neg (by simp [hid]), Action.replies_connect_bind, hconnect]
  have hlooked : looked = engine.answer ⟨.get, w.lookupRequest identifier⟩ (engine.connect state).2 := rfl
  simp only [Action.replies_ask_bind, ← hlooked, lookup, removal]
  cases looked.1 with
  | error e => cases e <;> rfl
  | ok answer =>
    simp only [Action.replies_ask_bind]
    cases (engine.answer ⟨.delete, w.deleteRequest identifier⟩ looked.2).1 with
    | ok value => rfl
    | error e => cases e <;> rfl

/-- A reply that a deletion gets is one to its lookup or, if that found the document, to its removal. -/
theorem mem_replies_delete {entry : Call × Reply} (h : entry ∈ (w.delete identifier).replies engine state) :
    let looked := engine.answer (w.lookup identifier) (engine.connect state).2
    (engine.connect state).1 = .ok () ∧
      (entry = (w.lookup identifier, looked.1) ∨
        ∃ answer, looked.1 = .ok answer ∧
          entry = (w.removal identifier, (engine.answer (w.removal identifier) looked.2).1)) := by
  intro looked
  cases hconnect : (engine.connect state).1 with
  | error e =>
    rw [w.replies_delete_of_disconnected hid hconnect] at h
    cases h
  | ok _ =>
    have hlooked : looked = engine.answer (w.lookup identifier) (engine.connect state).2 := rfl
    rw [w.replies_delete hid hconnect, ← hlooked, List.mem_cons] at h
    refine ⟨rfl, h.imp_right fun hremoval => ?_⟩
    cases hreply : looked.1 with
    | error e =>
      rw [hreply] at hremoval
      cases hremoval
    | ok answer =>
      rw [hreply] at hremoval
      exact ⟨answer, rfl, List.mem_singleton.mp hremoval⟩

/-- What is missing is taken for deleted. -/
theorem value_delete (hconnect : (engine.connect state).1 = .ok ()) :
    let looked := engine.answer (w.lookup identifier) (engine.connect state).2
    ((w.delete identifier).execute engine state).value =
      match looked.1 with
      | .ok _ => removed (engine.answer (w.removal identifier) looked.2).1
      | .error e => absentAs () e := by
  intro looked
  have hlooked : looked = engine.answer ⟨.get, w.lookupRequest identifier⟩ (engine.connect state).2 := rfl
  have hblank : ¬ Text.isBlank identifier = true := by simp [hid]
  unfold delete
  simp only [if_neg hblank, Action.execute_bind, Action.execute_connect, hconnect, Run.andThen, Action.mapError_ok,
    Action.execute_ask, ← hlooked, removal]
  cases looked.1 with
  | error e => cases e <;> rfl
  | ok answer =>
    simp only [Action.execute_bind, Run.andThen, Action.execute_ask]
    cases (engine.answer ⟨.delete, w.deleteRequest identifier⟩ looked.2).1 with
    | ok value => rfl
    | error e => cases e <;> rfl

end

theorem reports_delete (identifier : String) :
    (w.delete identifier).Reports (Text.isBlank identifier = false) (absentAs ()) := by
  cases hid : Text.isBlank identifier with
  | true => exact (w.settles_delete hid).reports (by simp) _
  | false =>
    refine ⟨?_, ?_, ?_⟩
    · intro _ σ engine state hconnect
      rw [w.replies_delete hid hconnect]
      exact List.cons_ne_nil _ _
    · intro σ engine state entry hentry
      obtain ⟨-, rfl | ⟨answer, -, rfl⟩⟩ := w.mem_replies_delete hid hentry
      · exact ⟨nofun, nofun⟩
      · exact ⟨nofun, nofun⟩
    · intro σ engine state call e hreply
      obtain ⟨hconnect, hlookup | ⟨answer, hfound, hremoval⟩⟩ := w.mem_replies_delete hid hreply
      · have hmissing := (Prod.mk.inj hlookup).2
        rw [w.value_delete hid hconnect]
        simp only [← hmissing]
      · have hmissing := (Prod.mk.inj hremoval).2
        rw [w.value_delete hid hconnect]
        simp only [hfound, ← hmissing]
        rfl

end Writer

end SearchStore
