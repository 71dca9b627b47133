import SearchStore.Proofs.Engine.Calls
import SearchStore.Proofs.Engine.Exchange

/-!
# Calls with their replies

`Access.replies` lists the calls of a run, each with what the engine said to it. An engine that writes down what it
says leaves just this list behind (`run_recording`), and what an operation does on any engine it does on that one, so
the replies of operations with at most one call are known (`Settles.replies_eq_nil`, `Asks.replies_eq`), and with a
reply also the result (`Asks.of_mem_replies`).

`Reports` says what becomes of errors: which outcome an operation has if one of its calls, whichever it is, is
answered with an error.
-/

namespace SearchStore

variable {α β σ : Type}

/-! ### Replies of a run -/

namespace Access

/-- The calls of a run in order, each with its reply. -/
def replies (engine : Engine σ) : Access α → σ → List (Call × Reply)
  | done _, _ => []
  | connect next, state =>
    let (result, state) := engine.connect state
    (next result).replies engine state
  | request call next, state =>
    let (reply, state) := engine.answer call state
    (call, reply) :: (next reply).replies engine state
  | report _ rest, state => rest.replies engine state

theorem map_fst_replies (engine : Engine σ) (a : Access α) (state : σ) :
    (a.replies engine state).map (·.1) = (a.run engine state).calls := by
  induction a generalizing state with
  | done value => rfl
  | connect step ih => exact ih _ _
  | request call step ih =>
    rw [replies, run, List.map_cons]
    simp only [ih]
  | report event rest ih => exact ih state

end Access

/-- The engine with a list beside its state, of the calls that it answered and of what it said. -/
def Engine.recording (engine : Engine σ) : Engine (σ × List (Call × Reply)) where
  connect state :=
    let (result, opened) := engine.connect state.1
    (result, opened, state.2)
  answer call state :=
    let (reply, answered) := engine.answer call state.1
    (reply, answered, state.2 ++ [(call, reply)])

/-- A recording engine goes through the same run and leaves the replies behind. -/
theorem Access.run_recording (engine : Engine σ) (a : Access α) (state : σ) (before : List (Call × Reply)) :
    a.run engine.recording (state, before) =
      { value := (a.run engine state).value
        state := ((a.run engine state).state, before ++ a.replies engine state)
        calls := (a.run engine state).calls
        events := (a.run engine state).events } := by
  induction a generalizing state before with
  | done value => simp [run, replies]
  | connect step ih => exact ih _ _ _
  | request call step ih =>
    simp only [run, replies, Engine.recording] at ih ⊢
    rw [ih]
    simp
  | report event rest ih =>
    simp only [run, replies]
    rw [ih]

namespace Action

/-- The calls of a run in order, each with its reply. -/
def replies (engine : Engine σ) (a : Action α) (state : σ) : List (Call × Reply) :=
  Access.replies engine a.run state

theorem calls_eq_map_replies (engine : Engine σ) (a : Action α) (state : σ) :
    (a.execute engine state).calls = (a.replies engine state).map (·.1) :=
  (Access.map_fst_replies engine a.run state).symm

theorem replies_connect_bind (engine : Engine σ) (next : Unit → Action α) (state : σ) :
    (connect >>= next).replies engine state =
      match (engine.connect state).1 with
      | .ok value => (next value).replies engine (engine.connect state).2
      | .error _ => [] := by
  have hreplies : (connect >>= next).replies engine state =
      Access.replies engine (ExceptT.bindCont next ((engine.connect state).1.mapError .engine))
        (engine.connect state).2 := rfl
  rw [hreplies]
  cases (engine.connect state).1 with
  | ok value => rfl
  | error e => rfl

theorem replies_ask_bind (engine : Engine σ) (method : Method) (params : Json) (handle : Reply → Action α)
    (state : σ) :
    (ask method params >>= handle).replies engine state =
      let answered := engine.answer ⟨method, params⟩ state
      (⟨method, params⟩, answered.1) :: (handle answered.1).replies engine answered.2 := rfl

theorem state_recording (engine : Engine σ) (a : Action α) (state : σ) :
    (a.execute engine.recording (state, [])).state.2 = a.replies engine state := by
  rw [execute, Access.run_recording, List.nil_append]
  rfl

theorem Settles.replies_eq_nil {a : Action α} {result : Except Error α} (ha : Settles a result)
    (engine : Engine σ) (state : σ) : a.replies engine state = [] := by
  obtain ⟨events, hrun⟩ := ha _ engine.recording (state, [])
  rw [← state_recording, hrun]

theorem Asks.replies_eq_nil {a : Action α} {call : Call} {finish : Reply → Except Error α}
    (ha : Asks a call finish) {engine : Engine σ} {state : σ} {e : EngineError}
    (h : (engine.connect state).1 = .error e) : a.replies engine state = [] := by
  obtain ⟨events, hrun⟩ := ha _ engine.recording (state, [])
  have hrecording : (engine.recording.connect (state, [])).1 = .error e := h
  rw [← state_recording, hrun, exchange_of_error hrecording]
  rfl

theorem Asks.replies_eq {a : Action α} {call : Call} {finish : Reply → Except Error α}
    (ha : Asks a call finish) {engine : Engine σ} {state : σ} (h : (engine.connect state).1 = .ok ()) :
    a.replies engine state = [(call, (engine.answer call (engine.connect state).2).1)] := by
  obtain ⟨events, hrun⟩ := ha _ engine.recording (state, [])
  have hrecording : (engine.recording.connect (state, [])).1 = .ok () := h
  rw [← state_recording, hrun, exchange_of_ok hrecording]
  rfl

/-- A call with a reply is the one that the operation asks, and its result is made of this reply. -/
theorem Asks.of_mem_replies {a : Action α} {call : Call} {finish : Reply → Except Error α} (ha : Asks a call finish)
    {engine : Engine σ} {state : σ} {entry : Call × Reply} (h : entry ∈ a.replies engine state) :
    entry.1 = call ∧ (a.execute engine state).value = finish entry.2 := by
  cases hconnect : (engine.connect state).1 with
  | error e =>
    rw [ha.replies_eq_nil hconnect] at h
    cases h
  | ok _ =>
    rw [ha.replies_eq hconnect, List.mem_singleton] at h
    rw [ha.value_eq, hconnect, h]
    exact ⟨rfl, rfl⟩

end Action

/-! ### What becomes of errors -/

/-- Every error fails the operation, as it is. -/
def handedOn (e : EngineError) : Except Error α := .error (.engine e)

/-- What is not there gives the value; every other error fails the operation, as it is. -/
def absentAs (value : α) : EngineError → Except Error α
  | .notFound _ => .ok value
  | e => .error (.engine e)

/-- Calls whose answer is read as data: all but the sign of life and the question whether an index is there. -/
def Method.ReadsData (method : Method) : Prop := method ≠ .ping ∧ method ≠ .indexExists

instance : DecidablePred Method.ReadsData := fun _ => inferInstanceAs (Decidable (_ ∧ _))

namespace Action

/-- The operation asks for data, once it has a connection and `valid` holds, and any error that it is answered with
leads to the outcome of that error. -/
structure Reports (a : Action α) (valid : Prop) (outcome : EngineError → Except Error α) : Prop where
  asks : valid → ∀ (σ : Type) (engine : Engine σ) (state : σ), (engine.connect state).1 = .ok () →
    a.replies engine state ≠ []
  data : ∀ (σ : Type) (engine : Engine σ) (state : σ), ∀ entry ∈ a.replies engine state,
    entry.1.method.ReadsData
  outcome : ∀ (σ : Type) (engine : Engine σ) (state : σ) (call : Call) (e : EngineError),
    (call, .error e) ∈ a.replies engine state → (a.execute engine state).value = outcome e

theorem Reports.mono {a : Action α} {valid stronger : Prop} {outcome : EngineError → Except Error α}
    (ha : Reports a valid outcome) (h : stronger → valid) : Reports a stronger outcome :=
  { ha with asks := fun hstronger => ha.asks (h hstronger) }

theorem Settles.reports {a : Action α} {result : Except Error α} (ha : Settles a result) {valid : Prop}
    (hvalid : ¬ valid) (outcome : EngineError → Except Error α) : Reports a valid outcome where
  asks h := absurd h hvalid
  data σ engine state entry h := by
    rw [ha.replies_eq_nil] at h
    cases h
  outcome σ engine state call e h := by
    rw [ha.replies_eq_nil] at h
    cases h

theorem Asks.reports {a : Action α} {call : Call} {finish : Reply → Except Error α} (ha : Asks a call finish)
    (hdata : call.method.ReadsData) {outcome : EngineError → Except Error α}
    (hfinish : ∀ e, finish (.error e) = outcome e) (valid : Prop) : Reports a valid outcome where
  asks _ σ engine state hconnect := by
    rw [ha.replies_eq hconnect]
    simp
  data σ engine state entry h := by
    rw [(ha.of_mem_replies h).1]
    exact hdata
  outcome σ engine state other e h := by
    rw [(ha.of_mem_replies h).2]
    exact hfinish e

end Action

/-! ### Operations that check their arguments -/

/-- The operation makes this call if `valid` holds and it has a connection, and never another one. -/
structure Access.MakesOne (a : Access α) (valid : Prop) (call : Call) : Prop where
  only : ∀ (σ : Type) (engine : Engine σ) (state : σ), ∀ other ∈ (a.run engine state).calls, valid ∧ other = call
  once : valid → ∀ (σ : Type) (engine : Engine σ) (state : σ), (engine.connect state).1 = .ok () →
    (a.run engine state).calls = [call]

namespace Action

/-- The operation asks the call if `valid` holds, and comes to a result without the engine otherwise. -/
structure AsksIf (a : Action α) (valid : Prop) (call : Call) (finish : Reply → Except Error α) : Prop where
  asks : valid → Asks a call finish
  settles : ¬ valid → ∃ result, Settles a result

/-- An operation that starts with a check is refused without the engine if the check fails. -/
theorem AsksIf.of_check {check : Except Error Unit} {next : Unit → Action α} {valid : Prop} {call : Call}
    {finish : Reply → Except Error α} (hrefuses : ¬ valid → ∃ e, check = .error e)
    (hasks : valid → Asks (liftM check >>= next) call finish) :
    AsksIf (liftM check >>= next) valid call finish where
  asks := hasks
  settles h := by
    obtain ⟨e, he⟩ := hrefuses h
    rw [he]
    exact ⟨_, (settles_lift (.error e)).bind_error next⟩

/-- A call that the operation makes is the one that it asks, and its arguments passed. -/
theorem AsksIf.of_mem_calls {a : Action α} {valid : Prop} {call : Call} {finish : Reply → Except Error α}
    (ha : AsksIf a valid call finish) {engine : Engine σ} {state : σ} {other : Call}
    (h : other ∈ (a.execute engine state).calls) : valid ∧ other = call := by
  by_cases hvalid : valid
  · exact ⟨hvalid, (ha.asks hvalid).eq_of_mem_calls h⟩
  · obtain ⟨result, hsettles⟩ := ha.settles hvalid
    rw [hsettles.calls_eq_nil] at h
    cases h

theorem AsksIf.of_mem_replies {a : Action α} {valid : Prop} {call : Call} {finish : Reply → Except Error α}
    (ha : AsksIf a valid call finish) {engine : Engine σ} {state : σ} {entry : Call × Reply}
    (h : entry ∈ a.replies engine state) :
    valid ∧ entry.1 = call ∧ (a.execute engine state).value = finish entry.2 := by
  by_cases hvalid : valid
  · exact ⟨hvalid, (ha.asks hvalid).of_mem_replies h⟩
  · obtain ⟨result, hsettles⟩ := ha.settles hvalid
    rw [hsettles.replies_eq_nil] at h
    cases h

theorem AsksIf.makesOne {a : Action α} {valid : Prop} {call : Call} {finish : Reply → Except Error α}
    (ha : AsksIf a valid call finish) : a.run.MakesOne valid call where
  only σ engine state other hother := ha.of_mem_calls hother
  once hvalid σ engine state hconnect := by
    obtain ⟨events, hrun⟩ := ha.asks hvalid σ engine state
    rw [← execute, hrun, exchange_of_ok hconnect]

theorem AsksIf.reports {a : Action α} {valid : Prop} {call : Call} {finish : Reply → Except Error α}
    (ha : AsksIf a valid call finish) (hdata : call.method.ReadsData) {outcome : EngineError → Except Error α}
    (hfinish : ∀ e, finish (.error e) = outcome e) : Reports a valid outcome := by
  by_cases hvalid : valid
  · exact (ha.asks hvalid).reports hdata hfinish valid
  · obtain ⟨result, hsettles⟩ := ha.settles hvalid
    exact hsettles.reports hvalid _

end Action

end SearchStore
