import SearchStore.Engine.Call
import SearchStore.Log

/-!
# Access to the engine

An operation on the engine is an `Access`: a tree that asks for the connection, makes calls and writes to the
log, and goes on with what it gets, until it is done. It says nothing about the engine. An `Engine` answers the
calls of a tree, one after the other, and `Access.run` collects the result, the calls and the log.

`run_bind` says that a run of one operation and then another is a run of the first and then, from the state it
leaves, of the second.
-/

namespace SearchStore

/-- An operation on the engine with a result of type `α`. -/
inductive Access (α : Type) where
  | done (value : α)
  /-- Asks for the connection, which is opened if it is not open. -/
  | connect (next : Except EngineError Unit → Access α)
  /-- Makes a call over the connection. -/
  | request (call : Call) (next : Reply → Access α)
  /-- Writes to the log. -/
  | report (event : Event) (rest : Access α)

namespace Access

variable {α β σ : Type}

/-- The first operation, then the one that its result leads to. -/
def bind (a : Access α) (next : α → Access β) : Access β :=
  match a with
  | done value => next value
  | connect step => connect fun result => (step result).bind next
  | request call step => request call fun reply => (step reply).bind next
  | report event rest => report event (rest.bind next)

instance : Monad Access where
  pure := done
  bind := bind

end Access

/-! ### Runs -/

/-- An engine with states of type `σ`: how it takes connections and what it answers. -/
structure Engine (σ : Type) where
  connect : σ → Except EngineError Unit × σ
  answer : Call → σ → Reply × σ

/-- What a run of an operation leaves behind. -/
structure Run (σ α : Type) where
  value : α
  /-- The state of the engine afterwards. -/
  state : σ
  /-- The calls in order. -/
  calls : List Call := []
  /-- The log in order. -/
  events : List Event := []

namespace Access

variable {α β σ : Type}

/-- Runs an operation on an engine. -/
def run (engine : Engine σ) : Access α → σ → Run σ α
  | done value, state => { value, state }
  | connect next, state =>
    let (result, state) := engine.connect state
    (next result).run engine state
  | request call next, state =>
    let (reply, state) := engine.answer call state
    let rest := (next reply).run engine state
    { rest with calls := call :: rest.calls }
  | report event rest, state =>
    let rest := rest.run engine state
    { rest with events := event :: rest.events }

theorem run_bind (engine : Engine σ) (a : Access α) (next : α → Access β) (state : σ) :
    (a >>= next).run engine state =
      let first := a.run engine state
      let second := (next first.value).run engine first.state
      { value := second.value
        state := second.state
        calls := first.calls ++ second.calls
        events := first.events ++ second.events } := by
  induction a generalizing state with
  | done value => rfl
  | connect step ih => exact ih _ _
  | request call step ih =>
    simp only [Bind.bind, bind, run] at ih ⊢
    rw [ih]
    rfl
  | report event rest ih =>
    simp only [Bind.bind, bind, run] at ih ⊢
    rw [ih]
    rfl

end Access

/-! ### Operations that may fail -/

/-- An operation that may fail. -/
abbrev Action (α : Type) := ExceptT Error Access α

namespace Action

/-- Asks for the connection and fails with its error. -/
def connect : Action Unit :=
  ExceptT.mk (.connect fun result => .done (result.mapError Error.engine))

/-- Makes a call and hands out the reply, an error included. -/
def ask (method : Method) (params : Json) : Action Reply :=
  ExceptT.mk (.request ⟨method, params⟩ fun reply => .done (.ok reply))

/-- Makes a call and fails with its error. -/
def send (method : Method) (params : Json) : Action Json := do
  match ← ask method params with
  | .ok value => pure value
  | .error e => throw (.engine e)

/-- Writes to the log. -/
def report (event : Event) : Action Unit :=
  ExceptT.mk (.report event (.done (.ok ())))

/-- Writes a message of level `debug`. -/
def debug (message : String) : Action Unit := report { level := .debug, message }

/-- Writes a message of level `info`. -/
def info (message : String) : Action Unit := report { level := .info, message }

/-- Writes a message of level `warn`. -/
def warn (message : String) : Action Unit := report { level := .warn, message }

end Action

end SearchStore
