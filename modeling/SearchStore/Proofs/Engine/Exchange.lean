import SearchStore.Proofs.Engine.Action

/-!
# Operations with at most one call

Most operations check their arguments, ask for the connection, make one call, and make a result of the reply. An
operation `Settles` if it comes to a result without the engine, and it `Asks` a call if all it does with the engine
is to open the connection and to make this call. One lemma for each operation that says which of the two it does
tells everything about its runs on any engine: the calls (`Asks.eq_of_mem_calls`) and the result
(`Asks.value_eq`).
-/

namespace SearchStore

variable {α β σ : Type}

/-- A run that opens the connection, makes one call and ends in what `finish` makes of the reply. -/
def exchange (engine : Engine σ) (call : Call) (finish : Reply → Except Error α) (state : σ)
    (events : List Event) : Run σ (Except Error α) :=
  let opened := engine.connect state
  match opened.1 with
  | .error e => { value := .error (.engine e), state := opened.2, events }
  | .ok _ =>
    let answered := engine.answer call opened.2
    { value := finish answered.1, state := answered.2, calls := [call], events }

section
variable {engine : Engine σ} {state : σ}

theorem exchange_of_error {e : EngineError} (h : (engine.connect state).1 = .error e) (call : Call)
    (finish : Reply → Except Error α) (events : List Event) :
    exchange engine call finish state events =
      { value := .error (.engine e), state := (engine.connect state).2, events } := by
  unfold exchange
  simp only [h]

theorem exchange_of_ok (h : (engine.connect state).1 = .ok ()) (call : Call)
    (finish : Reply → Except Error α) (events : List Event) :
    exchange engine call finish state events =
      { value := finish (engine.answer call (engine.connect state).2).1
        state := (engine.answer call (engine.connect state).2).2
        calls := [call]
        events } := by
  unfold exchange
  simp only [h]

theorem map_exchange (f : α → β) (call : Call) (finish : Reply → Except Error α) (events : List Event) :
    (exchange engine call finish state events).map (Except.map f) =
      exchange engine call (fun reply => (finish reply).map f) state events := by
  cases hconnect : (engine.connect state).1 with
  | error e =>
    rw [exchange_of_error hconnect, exchange_of_error hconnect]
    rfl
  | ok _ =>
    rw [exchange_of_ok hconnect, exchange_of_ok hconnect]
    rfl

end

namespace Action

/-- The operation comes to its result without the engine. -/
def Settles (a : Action α) (result : Except Error α) : Prop :=
  ∀ (σ : Type) (engine : Engine σ) (state : σ), ∃ events,
    a.execute engine state = { value := result, state, events }

/-- The operation opens the connection, makes the call and ends in what `finish` makes of the reply. -/
def Asks (a : Action α) (call : Call) (finish : Reply → Except Error α) : Prop :=
  ∀ (σ : Type) (engine : Engine σ) (state : σ), ∃ events,
    a.execute engine state = exchange engine call finish state events

/-! ### Without the engine -/

theorem settles_pure (value : α) : Settles (pure value) (.ok value) := by
  intro σ engine state
  exact ⟨[], execute_pure engine state value⟩

theorem settles_throw (e : Error) : Settles (throw e : Action α) (.error e) := by
  intro σ engine state
  exact ⟨[], execute_throw engine state e⟩

theorem settles_lift (result : Except Error α) : Settles (liftM result) result := by
  intro σ engine state
  exact ⟨[], execute_lift engine state result⟩

theorem settles_report (event : Event) : Settles (report event) (.ok ()) := by
  intro σ engine state
  exact ⟨[event], rfl⟩

theorem settles_debug (message : String) : Settles (debug message) (.ok ()) := by
  intro σ engine state
  exact ⟨_, execute_debug engine state message⟩

/-- What an operation does once it got a value without the engine is what follows. -/
theorem Settles.execute_bind {a : Action α} {value : α} (ha : Settles a (.ok value))
    (next : α → Action β) (engine : Engine σ) (state : σ) : ∃ events,
    execute engine (a >>= next) state =
      let rest := execute engine (next value) state
      { rest with events := events ++ rest.events } := by
  obtain ⟨events, hfirst⟩ := ha σ engine state
  refine ⟨events, ?_⟩
  rw [Action.execute_bind, hfirst]
  simp [Run.andThen]

theorem Settles.calls_bind {a : Action α} {value : α} (ha : Settles a (.ok value)) (next : α → Action β)
    (engine : Engine σ) (state : σ) :
    ((a >>= next).execute engine state).calls = ((next value).execute engine state).calls := by
  obtain ⟨events, hbind⟩ := ha.execute_bind next engine state
  rw [hbind]

theorem Settles.bind_ok {a : Action α} {value : α} {next : α → Action β} {result : Except Error β}
    (ha : Settles a (.ok value)) (hnext : Settles (next value) result) : Settles (a >>= next) result := by
  intro σ engine state
  obtain ⟨before, hbind⟩ := ha.execute_bind next engine state
  obtain ⟨after, hrest⟩ := hnext σ engine state
  refine ⟨before ++ after, ?_⟩
  rw [hbind, hrest]

theorem Settles.bind_error {a : Action α} {e : Error} (ha : Settles a (.error e)) (next : α → Action β) :
    Settles (a >>= next) (.error e) := by
  intro σ engine state
  obtain ⟨events, hfirst⟩ := ha σ engine state
  refine ⟨events, ?_⟩
  rw [Action.execute_bind, hfirst]
  rfl

theorem Settles.bind {a : Action α} {result : Except Error α} (ha : Settles a result)
    {next : α → Action β} {finish : α → Except Error β}
    (hnext : ∀ value, Settles (next value) (finish value)) : Settles (a >>= next) (result.bind finish) := by
  cases result with
  | ok value => exact ha.bind_ok (hnext value)
  | error e => exact ha.bind_error next

theorem Settles.value_eq {a : Action α} {result : Except Error α} (ha : Settles a result)
    (engine : Engine σ) (state : σ) : (a.execute engine state).value = result := by
  obtain ⟨events, hrun⟩ := ha σ engine state
  rw [hrun]

theorem Settles.calls_eq_nil {a : Action α} {result : Except Error α} (ha : Settles a result)
    (engine : Engine σ) (state : σ) : (a.execute engine state).calls = [] := by
  obtain ⟨events, hrun⟩ := ha σ engine state
  rw [hrun]

theorem Settles.state_eq {a : Action α} {result : Except Error α} (ha : Settles a result)
    (engine : Engine σ) (state : σ) : (a.execute engine state).state = state := by
  obtain ⟨events, hrun⟩ := ha σ engine state
  rw [hrun]

/-! ### One call -/

/-- An operation asks what its last part asks, if all before it is done without the engine. -/
theorem Settles.asks {a : Action α} {value : α} {next : α → Action β} {call : Call}
    {finish : Reply → Except Error β} (ha : Settles a (.ok value)) (hnext : Asks (next value) call finish) :
    Asks (a >>= next) call finish := by
  intro σ engine state
  obtain ⟨before, hbind⟩ := ha.execute_bind next engine state
  obtain ⟨after, hrest⟩ := hnext σ engine state
  refine ⟨before ++ after, ?_⟩
  rw [hbind, hrest]
  cases hconnect : (engine.connect state).1 with
  | error e => rw [exchange_of_error hconnect, exchange_of_error hconnect]
  | ok _ => rw [exchange_of_ok hconnect, exchange_of_ok hconnect]

theorem asks_connect_ask {method : Method} {params : Json} {handle : Reply → Action α}
    {finish : Reply → Except Error α} (h : ∀ reply, Settles (handle reply) (finish reply)) :
    Asks (connect >>= fun _ => ask method params >>= handle) ⟨method, params⟩ finish := by
  intro σ engine state
  rw [execute_bind, execute_connect]
  cases hconnect : (engine.connect state).1 with
  | error e =>
    refine ⟨[], ?_⟩
    rw [exchange_of_error hconnect]
    rfl
  | ok _ =>
    let answered := engine.answer ⟨method, params⟩ (engine.connect state).2
    obtain ⟨events, hhandle⟩ := h answered.1 σ engine answered.2
    refine ⟨events, ?_⟩
    rw [exchange_of_ok hconnect]
    simp only [Run.andThen, mapError_ok, execute_bind, execute_ask, List.nil_append]
    rw [hhandle]
    rfl

theorem asks_connect_send {method : Method} {params : Json} {handle : Json → Action α}
    {finish : Json → Except Error α} (h : ∀ answer, Settles (handle answer) (finish answer)) :
    Asks (connect >>= fun _ => send method params >>= handle) ⟨method, params⟩
      (fun reply => (reply.mapError .engine).bind finish) := by
  intro σ engine state
  rw [execute_bind, execute_connect]
  cases hconnect : (engine.connect state).1 with
  | error e =>
    refine ⟨[], ?_⟩
    rw [exchange_of_error hconnect]
    rfl
  | ok _ =>
    simp only [exchange_of_ok hconnect, Run.andThen, mapError_ok, execute_bind, execute_send,
      List.nil_append]
    cases (engine.answer ⟨method, params⟩ (engine.connect state).2).1 with
    | error e =>
      refine ⟨[], ?_⟩
      simp only [mapError_error]
      rfl
    | ok answer =>
      obtain ⟨events, hhandle⟩ := h answer σ engine
        (engine.answer ⟨method, params⟩ (engine.connect state).2).2
      refine ⟨events, ?_⟩
      simp only [mapError_ok, hhandle]
      rfl

theorem Asks.eq_of_mem_calls {a : Action α} {call : Call} {finish : Reply → Except Error α}
    (ha : Asks a call finish) {engine : Engine σ} {state : σ} {other : Call}
    (h : other ∈ (a.execute engine state).calls) : other = call := by
  obtain ⟨events, hrun⟩ := ha σ engine state
  rw [hrun] at h
  cases hconnect : (engine.connect state).1 with
  | error e =>
    rw [exchange_of_error hconnect] at h
    cases h
  | ok _ =>
    rw [exchange_of_ok hconnect] at h
    exact List.mem_singleton.mp h

theorem Asks.value_eq {a : Action α} {call : Call} {finish : Reply → Except Error α}
    (ha : Asks a call finish) (engine : Engine σ) (state : σ) :
    (a.execute engine state).value =
      ((engine.connect state).1.mapError .engine).bind fun _ =>
        finish (engine.answer call (engine.connect state).2).1 := by
  obtain ⟨events, hrun⟩ := ha σ engine state
  rw [hrun]
  cases hconnect : (engine.connect state).1 with
  | error e =>
    rw [exchange_of_error hconnect]
    rfl
  | ok _ =>
    rw [exchange_of_ok hconnect]
    rfl

theorem Asks.state_eq {a : Action α} {call : Call} {finish : Reply → Except Error α}
    (ha : Asks a call finish) {engine : Engine σ} {state : σ} (h : (engine.connect state).1 = .ok ()) :
    (a.execute engine state).state = (engine.answer call (engine.connect state).2).2 := by
  obtain ⟨events, hrun⟩ := ha σ engine state
  rw [hrun, exchange_of_ok h]

/-- A result that is no failure is made of a reply. -/
theorem Asks.exists_of_ok {a : Action α} {call : Call} {finish : Reply → Except Error α}
    (ha : Asks a call finish) {engine : Engine σ} {state : σ} {value : α}
    (h : (a.execute engine state).value = .ok value) : ∃ reply, finish reply = .ok value := by
  rw [ha.value_eq] at h
  cases hconnect : (engine.connect state).1 with
  | error e =>
    rw [hconnect] at h
    cases h
  | ok _ =>
    rw [hconnect] at h
    exact ⟨_, h⟩

end Action

end SearchStore
