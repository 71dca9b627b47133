import Mathlib.Logic.Relation
import SearchStore.Proofs.Engine.Calls
import SearchStore.Proofs.Results

/-!
# Operations side by side

Operations of several clients run on one engine, one step of some operation at a time. A schedule says whose turn
it is; all schedules together are all interleavings (`Parallel.run`).

What one operation achieves while the others go on is said by `Access.Ensures`: between two of its steps, any
number of calls that satisfy `P` may be made. If all operations make such calls only, then each has achieved in
every interleaving what it ensures (`Parallel.ensures_run`, by induction on the schedule).
-/

namespace SearchStore

variable {α β ι σ : Type} {P Q : Call → Prop}

/-! ### Steps -/

/-- What operations side by side share: the state of the engine, and the calls made so far. -/
structure Shared (σ : Type) where
  state : σ
  calls : List Call := []

namespace Shared

variable (engine : Engine σ)

/-- After a connection was asked for. -/
def connect (w : Shared σ) : Shared σ := { w with state := (engine.connect w.state).2 }

/-- After a call was answered. -/
def answer (call : Call) (w : Shared σ) : Shared σ :=
  { state := (engine.answer call w.state).2, calls := w.calls ++ [call] }

/-- One step of somebody whose calls satisfy `P`. -/
inductive Move (P : Call → Prop) : Shared σ → Shared σ → Prop
  | connect (w : Shared σ) : Move P w (w.connect engine)
  | answer (w : Shared σ) {call : Call} (h : P call) : Move P w (w.answer engine call)

/-- Any number of such steps. -/
abbrev Leads (P : Call → Prop) : Shared σ → Shared σ → Prop := Relation.ReflTransGen (Move engine P)

theorem Leads.mono {engine : Engine σ} (hPQ : ∀ call, P call → Q call) {w w' : Shared σ}
    (h : Leads engine P w w') : Leads engine Q w w' := by
  refine Relation.ReflTransGen.mono (fun w w' hmove => ?_) _ _ h
  cases hmove with
  | connect => exact .connect w
  | answer hcall => exact .answer w (hPQ _ hcall)

theorem Leads.preserves {engine : Engine σ} (property : Shared σ → Prop)
    (hstep : ∀ w w', Move engine P w w' → property w → property w') {w w' : Shared σ}
    (h : Leads engine P w w') (hw : property w) : property w' := by
  induction h with
  | refl => exact hw
  | tail _ hmove ih => exact hstep _ _ hmove ih

end Shared

namespace Access

variable (engine : Engine σ)

/-- The next step of an operation; one that is done stays as it is. -/
def step : Access α → Shared σ → Access α × Shared σ
  | done value, w => (done value, w)
  | connect next, w => (next (engine.connect w.state).1, w.connect engine)
  | request call next, w => (next (engine.answer call w.state).1, w.answer engine call)
  | report _ rest, w => (rest, w)

instance [DecidableEq α] (value : α) : (a : Access α) → Decidable (a = .done value)
  | done other => decidable_of_iff (other = value) (by simp)
  | connect _ => isFalse nofun
  | request _ _ => isFalse nofun
  | report _ _ => isFalse nofun

/-- A number of steps of an operation. -/
def steps (a : Access α) (w : Shared σ) : Nat → Access α × Shared σ
  | 0 => (a, w)
  | n + 1 => let next := a.step engine w; next.1.steps next.2 n

variable {engine}

theorem Makes.step {a : Access α} (ha : a.Makes P) (w : Shared σ) : (a.step engine w).1.Makes P := by
  cases a with
  | done value => exact trivial
  | connect next => exact ha _
  | request call next => exact ha.2 _
  | report event rest => exact ha

theorem Makes.leads_step {a : Access α} (ha : a.Makes P) (w : Shared σ) :
    Shared.Leads engine P w (a.step engine w).2 := by
  cases a with
  | done value => exact .refl
  | connect next => exact .single (.connect w)
  | request call next => exact .single (.answer w ha.1)
  | report event rest => exact .refl

theorem steps_done (value : α) (w : Shared σ) (n : Nat) :
    (done value : Access α).steps engine w n = (done value, w) := by
  induction n with
  | zero => rfl
  | succ n ih => exact ih

/-- Where an operation is done after some steps, what follows on it begins. -/
theorem exists_steps_bind {a : Access α} (next : α → Access β) {w : Shared σ} {n : Nat} {value : α}
    (h : (a.steps engine w n).1 = .done value) :
    ∃ m, (a >>= next).steps engine w m = (next value, (a.steps engine w n).2) := by
  induction n generalizing a w with
  | zero =>
    obtain rfl : a = .done value := h
    exact ⟨0, rfl⟩
  | succ n ih =>
    cases a with
    | done other =>
      rw [steps_done] at h ⊢
      obtain rfl : other = value := Access.done.inj h
      exact ⟨0, rfl⟩
    | connect step =>
      obtain ⟨m, hm⟩ := ih h
      exact ⟨m + 1, hm⟩
    | request call step =>
      obtain ⟨m, hm⟩ := ih h
      exact ⟨m + 1, hm⟩
    | report event rest =>
      obtain ⟨m, hm⟩ := ih h
      exact ⟨m + 1, hm⟩

/-- Every operation is done after some number of steps. -/
theorem exists_steps_done (engine : Engine σ) (a : Access α) (w : Shared σ) :
    ∃ n value, (a.steps engine w n).1 = .done value := by
  induction a generalizing w with
  | done value => exact ⟨0, value, rfl⟩
  | connect next ih =>
    obtain ⟨n, value, h⟩ := ih (engine.connect w.state).1 (w.connect engine)
    exact ⟨n + 1, value, h⟩
  | request call next ih =>
    obtain ⟨n, value, h⟩ := ih (engine.answer call w.state).1 (w.answer engine call)
    exact ⟨n + 1, value, h⟩
  | report event rest ih =>
    obtain ⟨n, value, h⟩ := ih w
    exact ⟨n + 1, value, h⟩

end Access

/-! ### Interleavings -/

/-- Operations side by side. -/
structure Parallel (σ α : Type) where
  operations : List (Access α)
  shared : Shared σ

namespace Parallel

variable (engine : Engine σ)

/-- One step of the operation at a place. -/
def advance (p : Parallel σ α) (place : Nat) : Parallel σ α :=
  match p.operations[place]? with
  | none => p
  | some a =>
    let next := a.step engine p.shared
    { operations := p.operations.set place next.1, shared := next.2 }

/-- One step for each entry of a schedule, which says whose turn it is. -/
def run (p : Parallel σ α) (schedule : List Nat) : Parallel σ α := schedule.foldl (advance engine) p

/-- Whether all operations are done, with a result. -/
def AllDone (p : Parallel σ α) (value : α) : Prop := ∀ a ∈ p.operations, a = .done value

instance [DecidableEq α] (p : Parallel σ α) (value : α) : Decidable (p.AllDone value) :=
  inferInstanceAs (Decidable (∀ a ∈ p.operations, a = .done value))

theorem run_append (p : Parallel σ α) (first second : List Nat) :
    p.run engine (first ++ second) = (p.run engine first).run engine second := List.foldl_append

/-- One step keeps what all operations do: it is one of their steps, and they still make such calls only. -/
theorem leads_advance {p : Parallel σ α} (h : ∀ a ∈ p.operations, a.Makes P) (place : Nat) :
    Shared.Leads engine P p.shared (p.advance engine place).shared ∧
      ∀ a ∈ (p.advance engine place).operations, a.Makes P := by
  rw [advance]
  cases hplace : p.operations[place]? with
  | none => exact ⟨.refl, h⟩
  | some a =>
    have ha : a.Makes P := h a (List.mem_of_getElem? hplace)
    refine ⟨ha.leads_step p.shared, fun b hb => ?_⟩
    obtain hb | rfl := List.mem_or_eq_of_mem_set hb
    · exact h b hb
    · exact ha.step p.shared

theorem leads_run {p : Parallel σ α} (h : ∀ a ∈ p.operations, a.Makes P) (schedule : List Nat) :
    Shared.Leads engine P p.shared (p.run engine schedule).shared ∧
      ∀ a ∈ (p.run engine schedule).operations, a.Makes P := by
  induction schedule generalizing p with
  | nil => exact ⟨.refl, h⟩
  | cons place rest ih =>
    obtain ⟨hfirst, hmakes⟩ := leads_advance engine h place
    obtain ⟨hrest, hmakes⟩ := ih hmakes
    exact ⟨hfirst.trans hrest, hmakes⟩

end Parallel

/-! ### What an operation ensures -/

/-- The operation ends in `post`, also if others make calls that satisfy `P` between its steps. -/
def Access.Ensures (engine : Engine σ) (P : Call → Prop) (post : α → Shared σ → Prop) :
    Access α → Shared σ → Prop
  | .done value, w => post value w
  | .connect next, w => ∀ w', Shared.Leads engine P w w' →
    (next (engine.connect w'.state).1).Ensures engine P post (w'.connect engine)
  | .request call next, w => ∀ w', Shared.Leads engine P w w' →
    (next (engine.answer call w'.state).1).Ensures engine P post (w'.answer engine call)
  | .report _ rest, w => rest.Ensures engine P post w

namespace Access

variable {engine : Engine σ} {post : α → Shared σ → Prop}

/-- What an operation ensures it still ensures after calls of others, if these keep `post`. -/
theorem Ensures.of_leads
    (hpost : ∀ value w w', Shared.Leads engine P w w' → post value w → post value w')
    {a : Access α} {w w' : Shared σ} (h : a.Ensures engine P post w) (hleads : Shared.Leads engine P w w') :
    a.Ensures engine P post w' := by
  induction a with
  | done value => exact hpost value w w' hleads h
  | connect next ih => exact fun w'' hnext => h w'' (hleads.trans hnext)
  | request call next ih => exact fun w'' hnext => h w'' (hleads.trans hnext)
  | report event rest ih => exact ih h

theorem Ensures.step {a : Access α} {w : Shared σ} (h : a.Ensures engine P post w) :
    (a.step engine w).1.Ensures engine P post (a.step engine w).2 := by
  cases a with
  | done value => exact h
  | connect next => exact h w .refl
  | request call next => exact h w .refl
  | report event rest => exact h

theorem Ensures.steps {a : Access α} {w : Shared σ} (h : a.Ensures engine P post w) (n : Nat) :
    (a.steps engine w n).1.Ensures engine P post (a.steps engine w n).2 := by
  induction n generalizing a w with
  | zero => exact h
  | succ n ih => exact ih h.step

/-- What holds whatever has happened since, every operation ensures whose calls satisfy `P`. -/
theorem Makes.ensures {a : Access α} {w : Shared σ} (ha : a.Makes P)
    (h : ∀ value w', Shared.Leads engine P w w' → post value w') : a.Ensures engine P post w := by
  induction a generalizing w with
  | done value => exact h value w .refl
  | connect next ih =>
    intro w' hleads
    exact ih _ (ha _) fun value w'' hnext =>
      h value w'' ((hleads.tail (.connect w')).trans hnext)
  | request call next ih =>
    intro w' hleads
    exact ih _ (ha.2 _) fun value w'' hnext =>
      h value w'' ((hleads.tail (.answer w' ha.1)).trans hnext)
  | report event rest ih => exact ih ha h

theorem Ensures.mono {post' : α → Shared σ → Prop} (hpost : ∀ value w, post value w → post' value w)
    {a : Access α} {w : Shared σ} (h : a.Ensures engine P post w) : a.Ensures engine P post' w := by
  induction a generalizing w with
  | done value => exact hpost value w h
  | connect next ih => exact fun w' hleads => ih _ (h w' hleads)
  | request call next ih => exact fun w' hleads => ih _ (h w' hleads)
  | report event rest ih => exact ih h

theorem Ensures.and_leads {a : Access α} {w : Shared σ} (h : a.Ensures engine P post w) (ha : a.Makes P) :
    a.Ensures engine P (fun value w' => post value w' ∧ Shared.Leads engine P w w') w := by
  induction a generalizing w with
  | done value => exact ⟨h, .refl⟩
  | connect next ih =>
    intro w' hleads
    refine (ih _ (h w' hleads) (ha _)).mono fun value w'' ⟨hpost, hnext⟩ => ⟨hpost, ?_⟩
    exact (hleads.tail (.connect w')).trans hnext
  | request call next ih =>
    intro w' hleads
    refine (ih _ (h w' hleads) (ha.2 _)).mono fun value w'' ⟨hpost, hnext⟩ => ⟨hpost, ?_⟩
    exact (hleads.tail (.answer w' ha.1)).trans hnext
  | report event rest ih => exact ih h ha

theorem ensures_bind {a : Access α} {next : α → Access β} {post : β → Shared σ → Prop} {w : Shared σ}
    (h : a.Ensures engine P (fun value w' => (next value).Ensures engine P post w') w) :
    (a >>= next).Ensures engine P post w := by
  induction a generalizing w with
  | done value => exact h
  | connect step ih => exact fun w' hleads => ih _ (h w' hleads)
  | request call step ih => exact fun w' hleads => ih _ (h w' hleads)
  | report event rest ih => exact ih h

end Access

namespace Action

/-- An operation that may fail ends in `post`, also if others make calls between its steps. -/
def Ensures (engine : Engine σ) (P : Call → Prop) (post : Except Error α → Shared σ → Prop) (a : Action α)
    (w : Shared σ) : Prop :=
  Access.Ensures engine P post a.run w

variable {engine : Engine σ} {w : Shared σ}

theorem ensures_bind {a : Action α} {next : α → Action β} {post : Except Error β → Shared σ → Prop}
    (h : a.Ensures engine P (fun result w' =>
      match result with
      | .ok value => (next value).Ensures engine P post w'
      | .error e => post (.error e) w') w) :
    (a >>= next).Ensures engine P post w := by
  refine Access.ensures_bind (Access.Ensures.mono (fun result w' hresult => ?_) h)
  cases result with
  | ok value => exact hresult
  | error e => exact hresult

theorem ensures_lift {result : Except Error α} {post : Except Error α → Shared σ → Prop}
    (h : post result w) : (liftM result : Action α).Ensures engine P post w := by
  cases result with
  | ok value => exact h
  | error e => exact h

theorem ensures_tryCatch {a : Action α} {handle : Error → Action α}
    {post : Except Error α → Shared σ → Prop}
    (h : a.Ensures engine P (fun result w' =>
      match result with
      | .ok value => post (.ok value) w'
      | .error e => (handle e).Ensures engine P post w') w) :
    (tryCatch a handle).Ensures engine P post w := by
  refine Access.ensures_bind (Access.Ensures.mono (fun result w' hresult => ?_) h)
  cases result with
  | ok value => exact hresult
  | error e => exact hresult

theorem ensures_send {method : Method} {params : Json} {post : Except Error Json → Shared σ → Prop}
    (h : ∀ w', Shared.Leads engine P w w' →
      post ((engine.answer ⟨method, params⟩ w'.state).1.mapError .engine)
        (w'.answer engine ⟨method, params⟩)) :
    (send method params).Ensures engine P post w := by
  intro w' hleads
  have hw' := h w' hleads
  cases hreply : (engine.answer ⟨method, params⟩ w'.state).1 with
  | ok value => rwa [hreply] at hw'
  | error e => rwa [hreply] at hw'

end Action

theorem forall₂_set {R : ι → α → Prop} {items : List ι} {values : List α} (h : List.Forall₂ R items values)
    {place : Nat} {value : α} (hvalue : ∀ item, items[place]? = some item → R item value) :
    List.Forall₂ R items (values.set place value) := by
  induction h generalizing place with
  | nil => exact .nil
  | cons hhead htail ih =>
    cases place with
    | zero => exact .cons (hvalue _ rfl) htail
    | succ place => exact .cons hhead (ih fun item hitem => hvalue item hitem)

namespace Parallel

section
variable {engine : Engine σ} {post : ι → α → Shared σ → Prop} {items : List ι}
  (hpost : ∀ item value w w', Shared.Leads engine P w w' → post item value w → post item value w')
include hpost

theorem ensures_advance {p : Parallel σ α} (hmakes : ∀ a ∈ p.operations, a.Makes P)
    (h : List.Forall₂ (fun item a => a.Ensures engine P (post item) p.shared) items p.operations)
    (place : Nat) :
    List.Forall₂ (fun item a => a.Ensures engine P (post item) (p.advance engine place).shared) items
      (p.advance engine place).operations := by
  have hothers : List.Forall₂
      (fun item a => a.Ensures engine P (post item) (p.advance engine place).shared) items p.operations :=
    h.imp fun item a ha => ha.of_leads (hpost item) (leads_advance engine hmakes place).1
  rw [advance] at hothers ⊢
  cases hplace : p.operations[place]? with
  | none =>
    rw [hplace] at hothers
    exact hothers
  | some a =>
    rw [hplace] at hothers
    refine forall₂_set hothers fun item hitem => ?_
    obtain ⟨hi, rfl⟩ := List.getElem?_eq_some_iff.mp hitem
    obtain ⟨hj, rfl⟩ := List.getElem?_eq_some_iff.mp hplace
    exact (h.get hi hj).step

/-- In every interleaving, each operation achieves what it ensures, if the calls of others keep it. -/
theorem ensures_run {p : Parallel σ α} (hmakes : ∀ a ∈ p.operations, a.Makes P)
    (h : List.Forall₂ (fun item a => a.Ensures engine P (post item) p.shared) items p.operations)
    (schedule : List Nat) :
    List.Forall₂ (fun item a => a.Ensures engine P (post item) (p.run engine schedule).shared) items
      (p.run engine schedule).operations := by
  induction schedule generalizing p with
  | nil => exact h
  | cons place rest ih =>
    exact ih (leads_advance engine hmakes place).2 (ensures_advance hpost hmakes h place)

end

/-! ### Schedules -/

variable (engine)

theorem advance_length (before after : List (Access α)) (a : Access α) (w : Shared σ) :
    advance engine ⟨before ++ a :: after, w⟩ before.length =
      ⟨before ++ (a.step engine w).1 :: after, (a.step engine w).2⟩ := by
  simp [advance]

theorem run_replicate_length (before after : List (Access α)) (a : Access α) (w : Shared σ) (n : Nat) :
    run engine ⟨before ++ a :: after, w⟩ (List.replicate n before.length) =
      ⟨before ++ (a.steps engine w n).1 :: after, (a.steps engine w n).2⟩ := by
  induction n generalizing a w with
  | zero => rfl
  | succ n ih =>
    rw [List.replicate_succ, run, List.foldl_cons, advance_length, ← run, ih]
    rfl

/-- Where each operation alone gets to a point, keeping an invariant, some schedule brings all of them there. -/
theorem exists_run (start : ι → Access α) (goal : ι → Access α → Prop) (invariant : Shared σ → Prop)
    (items : List ι)
    (h : ∀ item ∈ items, ∀ w, invariant w →
      ∃ n, goal item ((start item).steps engine w n).1 ∧ invariant ((start item).steps engine w n).2)
    (before : List (Access α)) (w : Shared σ) (hw : invariant w) :
    ∃ schedule reached, List.Forall₂ goal items reached ∧
      (run engine ⟨before ++ items.map start, w⟩ schedule).operations = before ++ reached ∧
      invariant (run engine ⟨before ++ items.map start, w⟩ schedule).shared := by
  induction items generalizing before w with
  | nil => exact ⟨[], [], .nil, rfl, hw⟩
  | cons item rest ih =>
    obtain ⟨hitem, hrest⟩ := List.forall_mem_cons.mp h
    obtain ⟨n, hgoal, hn⟩ := hitem w hw
    obtain ⟨schedule, reached, hreached, hoperations, hshared⟩ :=
      ih hrest (before ++ [((start item).steps engine w n).1]) _ hn
    refine ⟨List.replicate n before.length ++ schedule, _ :: reached, .cons hgoal hreached, ?_⟩
    rw [run_append, List.map_cons, run_replicate_length]
    simp only [List.append_assoc, List.singleton_append] at hoperations hshared
    exact ⟨hoperations, hshared⟩

/-- Every interleaving can go on until all operations are done. -/
theorem exists_run_done (p : Parallel σ α) :
    ∃ schedule, ∀ a ∈ (p.run engine schedule).operations, ∃ value, a = .done value := by
  obtain ⟨schedule, reached, hreached, hoperations, -⟩ :=
    exists_run engine id (fun _ a => ∃ value, a = .done value) (fun _ => True) p.operations
      (fun a _ w _ => by simpa using a.exists_steps_done engine w) [] p.shared trivial
  refine ⟨schedule, fun a ha => ?_⟩
  rw [List.map_id, List.nil_append, List.nil_append] at hoperations
  rw [hoperations] at ha
  obtain ⟨-, -, hdone⟩ := exists_left_of_forall₂ hreached ha
  exact hdone

end Parallel

end SearchStore
