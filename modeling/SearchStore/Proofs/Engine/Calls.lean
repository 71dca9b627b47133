import SearchStore.Engine.Access

/-!
# Calls that an operation can make

`Access.Makes P` says that all calls of an operation satisfy `P`, whatever it is answered. One lemma for each way
to build an operation says what its calls are, so that the calls of an operation are read off its definition.
-/

namespace SearchStore

variable {α β ι σ : Type} {P Q : Call → Prop}

/-- Every call that the operation makes satisfies `P`, whatever the answers are. -/
def Access.Makes (P : Call → Prop) : Access α → Prop
  | .done _ => True
  | .connect next => ∀ result, (next result).Makes P
  | .request call next => P call ∧ ∀ reply, (next reply).Makes P
  | .report _ rest => rest.Makes P

namespace Access

theorem Makes.mono (hPQ : ∀ call, P call → Q call) {a : Access α} (ha : a.Makes P) : a.Makes Q := by
  induction a with
  | done value => exact trivial
  | connect step ih => exact fun result => ih result (ha result)
  | request call step ih => exact ⟨hPQ call ha.1, fun reply => ih reply (ha.2 reply)⟩
  | report event rest ih => exact ih ha

theorem Makes.bind {a : Access α} {next : α → Access β} (ha : a.Makes P)
    (hnext : ∀ value, (next value).Makes P) : (a >>= next).Makes P := by
  induction a with
  | done value => exact hnext value
  | connect step ih => exact fun result => ih result (ha result)
  | request call step ih => exact ⟨ha.1, fun reply => ih reply (ha.2 reply)⟩
  | report event rest ih => exact ih ha

theorem Makes.of_mem_calls {a : Access α} (ha : a.Makes P) (engine : Engine σ) (state : σ) :
    ∀ call ∈ (a.run engine state).calls, P call := by
  induction a generalizing state with
  | done value => simp [run]
  | connect step ih => exact ih _ (ha _) _
  | request call step ih =>
    rw [run, List.forall_mem_cons]
    exact ⟨ha.1, ih _ (ha.2 _) _⟩
  | report event rest ih => exact ih ha state

end Access

namespace Action

/-- Every call that the operation makes satisfies `P`, whatever the answers are. -/
def Makes (P : Call → Prop) (a : Action α) : Prop := Access.Makes P a.run

theorem Makes.mono (hPQ : ∀ call, P call → Q call) {a : Action α} (ha : Makes P a) : Makes Q a :=
  Access.Makes.mono hPQ ha

theorem makes_pure (value : α) : Makes P (pure value) := trivial

theorem makes_throw (e : Error) : Makes P (throw e : Action α) := trivial

theorem makes_lift (result : Except Error α) : Makes P (liftM result : Action α) := by
  cases result with
  | ok value => exact makes_pure value
  | error e => exact makes_throw e

theorem makes_connect : Makes P connect := fun _ => trivial

theorem makes_report (event : Event) : Makes P (report event) := trivial

theorem makes_ask {method : Method} {params : Json} (h : P ⟨method, params⟩) : Makes P (ask method params) :=
  ⟨h, fun _ => trivial⟩

/-- The calls of a sequence are calls of the first part and, where it has a result, of the second. -/
theorem Makes.bind {a : Action α} {next : α → Action β} (ha : Makes P a)
    (hnext : ∀ value, Makes P (next value)) : Makes P (a >>= next) := by
  refine Access.Makes.bind ha fun result => ?_
  cases result with
  | ok value => exact hnext value
  | error e => exact trivial

theorem Makes.tryCatch {a : Action α} {handle : Error → Action α} (ha : Makes P a)
    (hhandle : ∀ e, Makes P (handle e)) : Makes P (tryCatch a handle) := by
  refine Access.Makes.bind ha fun result => ?_
  cases result with
  | ok value => exact trivial
  | error e => exact hhandle e

theorem makes_send {method : Method} {params : Json} (h : P ⟨method, params⟩) :
    Makes P (send method params) := by
  refine (makes_ask h).bind fun reply => ?_
  cases reply with
  | ok value => exact makes_pure value
  | error e => exact makes_throw _

/-- What follows on a result that may be an error makes calls only if it is none. -/
theorem Makes.lift_bind {result : Except Error α} {next : α → Action β}
    (hnext : ∀ value, result = .ok value → Makes P (next value)) :
    Makes P ((liftM result : Action α) >>= next) := by
  cases result with
  | ok value => exact hnext value rfl
  | error e => exact trivial

theorem makes_forM {items : List ι} {act : ι → Action Unit} (h : ∀ item ∈ items, Makes P (act item)) :
    Makes P (items.forM act) := by
  induction items with
  | nil => exact makes_pure ()
  | cons item rest ih =>
    obtain ⟨hitem, hrest⟩ := List.forall_mem_cons.mp h
    exact hitem.bind fun _ => ih hrest

end Action

end SearchStore
