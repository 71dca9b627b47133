import SearchStore.Engine.Access

/-!
# Runs of operations that may fail

`Action.execute` runs an operation on an engine, and one lemma for each way to build an operation says what
its run leaves behind: a sequence stops at its first failure (`execute_bind`), the connection and each call
fail with the errors of the engine.
-/

namespace SearchStore

variable {α β σ : Type}

/-- A run with another value. -/
def Run.map (f : α → β) (run : Run σ α) : Run σ β :=
  { value := f run.value, state := run.state, calls := run.calls, events := run.events }

theorem Access.run_map (f : α → β) (engine : Engine σ) (a : Access α) (state : σ) :
    (f <$> a).run engine state = (a.run engine state).map f := by
  have hmap : f <$> a = a >>= fun value => pure (f value) := rfl
  rw [hmap, run_bind]
  simp [run, Run.map, pure]

/-- A run that goes on with its result, unless it failed. -/
def Run.andThen (first : Run σ (Except Error α)) (next : α → σ → Run σ (Except Error β)) :
    Run σ (Except Error β) :=
  match first.value with
  | .ok value =>
    let second := next value first.state
    { second with calls := first.calls ++ second.calls, events := first.events ++ second.events }
  | .error e => { first with value := .error e }

theorem Run.value_andThen_ok {first : Run σ (Except Error α)} {value : α} (h : first.value = .ok value)
    (next : α → σ → Run σ (Except Error β)) :
    (first.andThen next).value = (next value first.state).value := by
  rw [Run.andThen, h]

theorem Run.value_andThen_error {first : Run σ (Except Error α)} {e : Error} (h : first.value = .error e)
    (next : α → σ → Run σ (Except Error β)) : (first.andThen next).value = .error e := by
  rw [Run.andThen, h]

namespace Action

/-- Runs an operation that may fail on an engine. -/
def execute (engine : Engine σ) (a : Action α) (state : σ) : Run σ (Except Error α) :=
  a.run.run engine state

variable (engine : Engine σ) (state : σ)

@[simp] theorem execute_pure (value : α) :
    execute engine (pure value) state = { value := .ok value, state } := rfl

@[simp] theorem execute_throw (e : Error) :
    execute engine (throw e : Action α) state = { value := .error e, state } := rfl

@[simp] theorem execute_lift (result : Except Error α) :
    execute engine (liftM result : Action α) state = { value := result, state } := by
  cases result <;> rfl

@[simp] theorem mapError_ok {ε ε' : Type} (f : ε → ε') (value : α) :
    (Except.ok value).mapError f = .ok value := rfl

@[simp] theorem mapError_error {ε ε' : Type} (f : ε → ε') (e : ε) :
    (Except.error e : Except ε α).mapError f = .error (f e) := rfl

@[simp] theorem execute_connect :
    execute engine connect state =
      { value := (engine.connect state).1.mapError .engine, state := (engine.connect state).2 } := rfl

@[simp] theorem execute_ask (method : Method) (params : Json) :
    execute engine (ask method params) state =
      { value := .ok (engine.answer ⟨method, params⟩ state).1
        state := (engine.answer ⟨method, params⟩ state).2
        calls := [⟨method, params⟩] } := rfl

@[simp] theorem execute_debug (message : String) :
    execute engine (debug message) state =
      { value := .ok (), state, events := [{ level := .debug, message }] } := rfl

@[simp] theorem execute_warn (message : String) :
    execute engine (warn message) state =
      { value := .ok (), state, events := [{ level := .warn, message }] } := rfl

theorem execute_bind (a : Action α) (next : α → Action β) :
    execute engine (a >>= next) state =
      (execute engine a state).andThen fun value => execute engine (next value) := by
  have hrun : execute engine (a >>= next) state =
      Access.run engine (a.run >>= ExceptT.bindCont next) state := rfl
  rw [hrun, Access.run_bind, execute]
  generalize Access.run engine a.run state = first
  obtain ⟨value, state', calls, events⟩ := first
  cases value with
  | ok value => rfl
  | error e => simp [ExceptT.bindCont, Access.run, Run.andThen, pure]

@[simp] theorem execute_send (method : Method) (params : Json) :
    execute engine (send method params) state =
      { value := (engine.answer ⟨method, params⟩ state).1.mapError .engine
        state := (engine.answer ⟨method, params⟩ state).2
        calls := [⟨method, params⟩] } := by
  rw [send, execute_bind, execute_ask, Run.andThen]
  cases (engine.answer ⟨method, params⟩ state).1 with
  | ok value => rfl
  | error e => rfl

end Action

end SearchStore
