import SearchStore.Proofs.Finder.Operations
import SearchStore.Proofs.Storage.Operations

/-!
# How many calls an operation makes

On an engine that takes the connection, an operation whose arguments are refused makes no call, and one whose
arguments pass makes one, whatever it is answered (`Run.SendsIf`). A service makes the calls of its finder, or none
if it has no compiled form of the query. A deletion makes a second call, if the first one found the document.
`operations_send` collects this for finders, services, readers and writers.
-/

namespace SearchStore

open SearchStore.Action (AsksIf)

variable {α ι σ : Type}

/-! ### Calls of a run -/

/-- The calls of the run are these, and none of them is repeated. -/
structure Run.Sends (run : Run σ α) (calls : List Call) : Prop where
  calls_eq : run.calls = calls
  nodup : run.calls.Nodup

/-- The one call of the run is this one if `valid` holds, and there is none otherwise. -/
structure Run.SendsIf (run : Run σ α) (valid : Prop) (call : Call) : Prop where
  one : valid → run.Sends [call]
  none : ¬ valid → run.Sends []

theorem Run.Sends.of_nodup {run : Run σ α} {calls : List Call} (h : run.calls = calls) (hnodup : calls.Nodup) :
    run.Sends calls := by
  rw [← h] at hnodup
  exact ⟨h, hnodup⟩

theorem Run.Sends.of_eq_nil {run : Run σ α} (h : run.calls = []) : run.Sends [] := .of_nodup h List.nodup_nil

theorem Run.SendsIf.nodup {run : Run σ α} {valid : Prop} {call : Call} (h : run.SendsIf valid call) :
    run.calls.Nodup := by
  by_cases hvalid : valid
  · exact (h.one hvalid).nodup
  · exact (h.none hvalid).nodup

section
variable {engine : Engine σ} {state : σ} (hconnect : (engine.connect state).1 = .ok ())
include hconnect

theorem Action.AsksIf.sendsIf {a : Action α} {valid : Prop} {call : Call} {finish : Reply → Except Error α}
    (ha : AsksIf a valid call finish) : (a.execute engine state).SendsIf valid call where
  one hvalid := by
    obtain ⟨events, hrun⟩ := ha.asks hvalid σ engine state
    refine .of_nodup ?_ (List.nodup_cons.mpr ⟨List.not_mem_nil, List.nodup_nil⟩)
    rw [hrun, exchange_of_ok hconnect]
  none hvalid := by
    obtain ⟨result, hsettles⟩ := ha.settles hvalid
    exact Run.Sends.of_eq_nil (hsettles.calls_eq_nil engine state)

end

/-! ### Operations -/

section
variable (engine : Engine σ) (state : σ)

/-- The calls of the operations of a finder. -/
structure Finder.SendsOnce (f : Finder ι) : Prop where
  getByIdentifier : ∀ identifier, ((f.getByIdentifier identifier).execute engine state).SendsIf
    (Text.isBlank identifier = false ∧ f.IsSingle) ⟨.get, f.getRequest identifier⟩
  getByIdentifiers : ∀ identifiers, ((f.getByIdentifiers identifiers).execute engine state).SendsIf
    (identifiers ≠ [] ∧ f.IsSingle) ⟨.mget, f.mgetRequest identifiers⟩
  find : ∀ query, ((f.find query).execute engine state).SendsIf
    (∃ fields, query = .object fields) ⟨.search, f.searchRequest query⟩
  findByStored : ∀ query, ((f.findByStored query).execute engine state).SendsIf
    (∃ fields, query = .object fields) ⟨.searchTemplate, f.searchRequest query⟩
  scrollStart : ∀ query, ((f.scrollStart query).execute engine state).SendsIf
    (∃ fields, query = .object fields) ⟨.search, f.scrollStartRequest query⟩
  scrollNext : ∀ cursor, ((f.scrollNext cursor).execute engine state).SendsIf
    (Text.isBlank cursor = false) ⟨.scroll, f.scrollNextRequest cursor⟩
  scrollEnd : ∀ cursor, ((f.scrollEnd cursor).execute engine state).SendsIf
    (Text.isBlank cursor = false) ⟨.clearScroll, Finder.scrollEndRequest cursor⟩

/-- The calls of a service: those of its finder, or none without a compiled form of the query. -/
structure QueryService.SendsAsFinder (s : QueryService ι) : Prop where
  find : ∀ query, match s.native query with
    | .ok native =>
      ((s.find query).execute engine state).Sends ((s.findNative query native).execute engine state).calls
    | .error _ => ((s.find query).execute engine state).Sends []
  scrollStart : ∀ query, match s.nativeScroll query with
    | .ok native =>
      ((s.scrollStart query).execute engine state).Sends ((s.finder.scrollStart native).execute engine state).calls
    | .error _ => ((s.scrollStart query).execute engine state).Sends []

/-- The calls of the operations of a reader. -/
structure Reader.SendsOnce (r : Reader ι) : Prop where
  read : ∀ identifier, ((r.read identifier).execute engine state).SendsIf
    (Text.isBlank identifier = false) ⟨.get, r.getRequest identifier⟩
  readAll : ∀ settings, ((r.readAll settings).run engine state).SendsIf
    (settings.first = true ∨ r.offset ≠ 0) ⟨.search, r.pageRequest settings⟩

/-- The calls of a deletion: none if the identifier is blank, else the lookup, and the removal of what it found. -/
structure Writer.DeletesFound (w : Writer) : Prop where
  blank : ∀ identifier, Text.isBlank identifier = true → ((w.delete identifier).execute engine state).Sends []
  found : ∀ identifier answer, Text.isBlank identifier = false →
    (engine.answer (w.lookup identifier) (engine.connect state).2).1 = .ok answer →
      ((w.delete identifier).execute engine state).Sends [w.lookup identifier, w.removal identifier]
  failed : ∀ identifier e, Text.isBlank identifier = false →
    (engine.answer (w.lookup identifier) (engine.connect state).2).1 = .error e →
      ((w.delete identifier).execute engine state).Sends [w.lookup identifier]

end

section
variable {engine : Engine σ} {state : σ} (hconnect : (engine.connect state).1 = .ok ())
include hconnect

theorem Finder.sendsOnce (f : Finder ι) : f.SendsOnce engine state where
  getByIdentifier identifier := (f.asksIf_getByIdentifier identifier).sendsIf hconnect
  getByIdentifiers identifiers := (f.asksIf_getByIdentifiers identifiers).sendsIf hconnect
  find query := (f.asksIf_find query).sendsIf hconnect
  findByStored query := (f.asksIf_findByStored query).sendsIf hconnect
  scrollStart query := (f.asksIf_scrollStart query).sendsIf hconnect
  scrollNext cursor := (f.asksIf_scrollNext cursor).sendsIf hconnect
  scrollEnd cursor := (f.asksIf_scrollEnd cursor).sendsIf hconnect

theorem QueryService.nodup_calls_findNative (s : QueryService ι) (query : Query) (native : Json) :
    ((s.findNative query native).execute engine state).calls.Nodup := by
  have hfinder := s.finder.sendsOnce hconnect
  cases query with
  | criteria q => exact (hfinder.find native).nodup
  | stored q => exact (hfinder.findByStored native).nodup
  | custom q => exact (hfinder.find native).nodup

theorem QueryService.sendsAsFinder (s : QueryService ι) : s.SendsAsFinder engine state where
  find query := by
    have hcalls := s.calls_find engine state query
    cases hnative : s.native query with
    | error e =>
      rw [hnative] at hcalls
      exact .of_eq_nil hcalls
    | ok native =>
      rw [hnative] at hcalls
      exact .of_nodup hcalls (s.nodup_calls_findNative hconnect query native)
  scrollStart query := by
    have hcalls := s.calls_scrollStart engine state query
    cases hnative : s.nativeScroll query with
    | error e =>
      rw [hnative] at hcalls
      exact .of_eq_nil hcalls
    | ok native =>
      rw [hnative] at hcalls
      exact .of_nodup hcalls ((s.finder.sendsOnce hconnect).scrollStart native).nodup

theorem Reader.sendsOnce (r : Reader ι) : r.SendsOnce engine state where
  read identifier := (r.asksIf_read identifier).sendsIf hconnect
  readAll settings := by
    have hitems := (r.asksIf_readItems settings).sendsIf hconnect
    rw [r.execute_readItems] at hitems
    exact
      { one := fun h => ⟨(hitems.one h).calls_eq, (hitems.one h).nodup⟩
        none := fun h => ⟨(hitems.none h).calls_eq, (hitems.none h).nodup⟩ }

theorem Writer.deletesFound (w : Writer) : w.DeletesFound engine state where
  blank identifier hblank := .of_eq_nil ((w.settles_delete hblank).calls_eq_nil engine state)
  found identifier answer hid hanswer := by
    have hcalls := Action.calls_eq_map_replies engine (w.delete identifier) state
    rw [w.replies_delete hid hconnect, hanswer] at hcalls
    apply Run.Sends.of_nodup hcalls
    simp [lookup, removal]
  failed identifier e hid hanswer := by
    have hcalls := Action.calls_eq_map_replies engine (w.delete identifier) state
    rw [w.replies_delete hid hconnect, hanswer] at hcalls
    exact .of_nodup hcalls (List.nodup_cons.mpr ⟨List.not_mem_nil, List.nodup_nil⟩)

end

/-- **No call for what is refused, one for the rest.** On an engine that takes the connection, and whatever it
answers: a finder and a reader make no call if the arguments of an operation are refused, and exactly its one call
if they pass. A service makes the calls of its finder on the compiled form of a query, and none if there is no such
form. A deletion looks for a document that has an identifier, and removes it if and only if the lookup succeeds. No
call is repeated. -/
theorem operations_send (engine : Engine σ) (state : σ) (hconnect : (engine.connect state).1 = .ok ()) :
    (∀ f : Finder ι, f.SendsOnce engine state) ∧ (∀ s : QueryService ι, s.SendsAsFinder engine state) ∧
      (∀ r : Reader ι, r.SendsOnce engine state) ∧ ∀ w : Writer, w.DeletesFound engine state := by
  refine ⟨?_, ?_, ?_, ?_⟩
  · intro f
    exact f.sendsOnce hconnect
  · intro s
    exact s.sendsAsFinder hconnect
  · intro r
    exact r.sendsOnce hconnect
  · intro w
    exact w.deletesFound hconnect

/-- The deletion of a document that is there, on an engine with a prepared reply to the lookup. -/
theorem operations_send_found :
    let script : Script := { replies := [(.get, .ok (.object [("found", .bool true)]))] }
    let w : Writer := { connector := {}, config := {}, target := ⟨⟨["library"]⟩, ⟨["book"]⟩⟩ }
    (Script.engine.connect script).1 = .ok () ∧
      ((w.delete "dune").execute Script.engine script).Sends [w.lookup "dune", w.removal "dune"] := by
  intro script w
  have hconnect : (Script.engine.connect script).1 = .ok () := rfl
  have hid : Text.isBlank "dune" = false := by decide
  obtain ⟨-, -, -, hdelete⟩ := operations_send (ι := Json) Script.engine script hconnect
  exact ⟨hconnect, (hdelete w).found "dune" _ hid rfl⟩

end SearchStore
