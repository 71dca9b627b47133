import SearchStore.Proofs.Storage.Paging

/-!
# Pages that cannot be read

A page cannot be read if there is no connection, if the engine answers with an error or with something of an unknown
form, or if one of the documents cannot be mapped (`PageFault`); these are all the ways in which `readAll` fails
(`readAll_fails_iff`). Whichever it is, a call that goes on leaves the reader as it was. But a call that starts over has
moved the reader to the start before it asked for anything (`eq_seek_of_failed`), and at the start there is nothing to
go on with.

`failure_in_place_iff` states what the calls behind a failure find: the page that was to be read next (`InPlace`), or
nothing, if a reader that was on its way was to start over.
-/

namespace SearchStore

variable {σ ι : Type}

/-! ### Failures -/

/-- The ways in which a page cannot be read, each with its error. -/
inductive PageFault (engine : Engine σ) (state : σ) (mapper : Mapper ι) (request : Json) : Error → Prop where
  | connection {e : EngineError} (h : (engine.connect state).1 = .error e) :
    PageFault engine state mapper request (.engine e)
  | reply {e : EngineError} (hopen : (engine.connect state).1 = .ok ())
    (h : (engine.answer ⟨.search, request⟩ (engine.connect state).2).1 = .error e) :
    PageFault engine state mapper request (.engine e)
  | form {answer : Json} (hopen : (engine.connect state).1 = .ok ())
    (hanswer : (engine.answer ⟨.search, request⟩ (engine.connect state).2).1 = .ok answer)
    (h : documents? answer = none) :
    PageFault engine state mapper request (.mapping (.unsupportedFormat answer))
  | document {answer : Json} {before after : List Json} {d : Json} {e : Error}
    (hopen : (engine.connect state).1 = .ok ())
    (hanswer : (engine.answer ⟨.search, request⟩ (engine.connect state).2).1 = .ok answer)
    (hdocuments : documents? answer = some (before ++ d :: after)) (h : mapper.document d = .error e)
    (hbefore : ∀ b ∈ before, ∃ item, mapper.document b = .ok item) :
    PageFault engine state mapper request e

/-- An answer cannot be mapped if it has an unknown form, or else because of its first document that cannot. -/
theorem Mapper.answer_eq_error_iff (m : Mapper ι) {answer : Json} {e : Error} :
    m.answer answer = .error e ↔
      (documents? answer = none ∧ e = .mapping (.unsupportedFormat answer)) ∨
      ∃ before d after, documents? answer = some (before ++ d :: after) ∧ m.document d = .error e ∧
        ∀ b ∈ before, ∃ item, m.document b = .ok item := by
  unfold Mapper.answer
  cases documents? answer with
  | none => simp [eq_comm]
  | some documents =>
    simp only [mapM_eq_error_iff, Option.some.injEq, reduceCtorEq, false_and, false_or]

theorem Reader.fetchedItems_of_error (r : Reader ι) {answer : Json} {e : Error} (h : r.mapper.answer answer = .error e) :
    (r.fetchedItems answer).map Prod.fst = .error e := by
  unfold fetchedItems
  rw [h]
  rfl

section
variable {engine : Engine σ} {state : σ} {r : Reader ι} {settings : PageSettings} {e : Error}

theorem PageFault.value_eq (h : PageFault engine state r.mapper (r.pageRequest settings) e)
    (hvalid : settings.first = true ∨ r.offset ≠ 0) :
    ((r.readItems settings).execute engine state).value = .error e := by
  rw [((r.asksIf_readItems settings).asks hvalid).value_eq]
  cases h with
  | connection h =>
    rw [h]
    rfl
  | reply hopen h =>
    rw [hopen, h]
    rfl
  | form hopen hanswer h =>
    have hmapped := r.mapper.answer_eq_error_iff.mpr (.inl ⟨h, rfl⟩)
    rw [hopen, hanswer]
    exact r.fetchedItems_of_error hmapped
  | document hopen hanswer hdocuments h hbefore =>
    have hmapped := r.mapper.answer_eq_error_iff.mpr (.inr ⟨_, _, _, hdocuments, h, hbefore⟩)
    rw [hopen, hanswer]
    exact r.fetchedItems_of_error hmapped

theorem pageFault_of_value_eq (hvalid : settings.first = true ∨ r.offset ≠ 0)
    (h : ((r.readItems settings).execute engine state).value = .error e) :
    PageFault engine state r.mapper (r.pageRequest settings) e := by
  rw [((r.asksIf_readItems settings).asks hvalid).value_eq] at h
  cases hopen : (engine.connect state).1 with
  | error reason =>
    rw [hopen] at h
    cases h
    exact .connection hopen
  | ok _ =>
    rw [hopen] at h
    cases hanswer : (engine.answer ⟨.search, r.pageRequest settings⟩ (engine.connect state).2).1 with
    | error reason =>
      rw [hanswer] at h
      cases h
      exact .reply hopen hanswer
    | ok answer =>
      rw [hanswer] at h
      have hmapped : r.mapper.answer answer = .error e := by
        cases hitems : r.mapper.answer answer with
        | error e' =>
          have hfailed := (r.fetchedItems_of_error hitems).symm.trans h
          rw [Except.error.inj hfailed]
        | ok items =>
          simp [Reader.fetchedItems, hitems, Except.bind, Except.map] at h
      obtain ⟨hform, rfl⟩ | ⟨before, d, after, hdocuments, hd, hbefore⟩ := r.mapper.answer_eq_error_iff.mp hmapped
      · exact .form hopen hanswer hform
      · exact .document hopen hanswer hdocuments hd hbefore

/-- A call fails if it asks for a page that cannot be read, and in no other way. -/
theorem readAll_fails_iff : ((r.readAll settings).run engine state).value.1 = .error e ↔
    (settings.first = true ∨ r.offset ≠ 0) ∧ PageFault engine state r.mapper (r.pageRequest settings) e := by
  have hvalue : ((r.readItems settings).execute engine state).value =
      ((r.readAll settings).run engine state).value.1 := by
    rw [r.execute_readItems]
    rfl
  rw [← hvalue]
  by_cases hvalid : settings.first = true ∨ r.offset ≠ 0
  · exact ⟨fun h => ⟨hvalid, pageFault_of_value_eq hvalid h⟩, fun h => h.2.value_eq hvalid⟩
  · obtain ⟨hfirst, hoffset⟩ := not_or.mp hvalid
    have hdone := readAll_of_done r (Bool.not_eq_true _ ▸ hfirst) (not_not.mp hoffset)
    rw [hvalue, hdone]
    exact ⟨nofun, fun h => absurd h.1 hvalid⟩

end

/-! ### The reader behind a failure -/

/-- A failure leaves the reader where the call started to read. -/
theorem eq_seek_of_failed {engine : Engine σ} {state : σ} {r after : Reader ι} {settings : PageSettings} {e : Error}
    (h : ((r.readAll settings).run engine state).value = (.error e, after)) :
    after = r.seek (r.startOf settings) := by
  obtain ⟨hvalid, -⟩ := readAll_fails_iff.mp (congrArg Prod.fst h)
  rw [readAll_eq_turn r hvalid] at h
  obtain ⟨e', hfails⟩ | ⟨s, answer, page, -, -, hpage⟩ :=
    (r.seek (r.startOf settings)).run_turn engine state (r.limitOf settings) (r.pageRequest settings)
  · exact (Prod.mk.inj (h.symm.trans hfails)).2
  · cases (Prod.mk.inj (h.symm.trans hpage)).1

/-- A reader whose iteration is where that of another one is: the calls that go on with it ask for the same page, and
they ask for one unless the iteration was at its end. -/
structure Reader.InPlace (r after : Reader ι) : Prop where
  offset_eq : after.offset = r.offset
  goesOn : ∀ settings, settings.first = false →
    (after.readAll settings).MakesOne (r.offset ≠ 0) ⟨.search, r.pageRequest settings⟩

theorem Reader.inPlace_self (r : Reader ι) : r.InPlace r where
  offset_eq := rfl
  goesOn settings hfirst := by
    have hone := r.makesOne_readAll settings
    simp only [hfirst, Bool.false_eq_true, false_or] at hone
    exact hone

/-- Calls that go on find the reader where it was, until one of them succeeds. -/
theorem reader_of_failed {engine : Engine σ} {r : Reader ι} {rest : List PageSettings}
    (hrest : ∀ settings ∈ rest, settings.first = false) :
    ∀ {state : σ} {before : List (PageRead ι)} {read : PageRead ι} {behind : List (PageRead ι)},
      r.pages engine state rest = before ++ read :: behind →
        (∀ earlier ∈ before, ∃ e, earlier.result = .error e) → read.reader = r := by
  induction rest with
  | nil =>
    intro state before read behind hpages
    simp [Reader.pages] at hpages
  | cons settings rest ih =>
    obtain ⟨hfirst, hlater⟩ := List.forall_mem_cons.mp hrest
    intro state before read behind hpages hbefore
    rw [Reader.pages] at hpages
    cases before with
    | nil =>
      rw [List.nil_append, List.cons.injEq] at hpages
      rw [← hpages.1]
    | cons earlier before =>
      rw [List.cons_append, List.cons.injEq] at hpages
      obtain ⟨⟨e, he⟩, hothers⟩ := List.forall_mem_cons.mp hbefore
      rw [← hpages.1] at he
      -- The first call failed, so the others find the reader where it was.
      have hsame : ((r.readAll settings).run engine state).value.2 = r := by
        have hseek := eq_seek_of_failed (Prod.ext he rfl)
        rw [Reader.startOf, if_neg (by simp [hfirst])] at hseek
        exact hseek
      rw [hsame] at hpages
      exact ih hlater hpages.2 hothers

/-- **A failure keeps the place of an iteration, unless the call was to start it over.** A call that fails does so for
want of a connection, for an error of the engine, or for an answer that cannot be mapped. Behind it, every call that
goes on finds the reader that the failure left, until one of them succeeds. That reader is in place if and only if the
failed call was one that goes on, or nothing was left to go on with. Behind a failure to start over, all calls that go
on return an empty page and ask nothing of the engine, so an iteration that was on its way is lost. -/
theorem failure_in_place_iff {engine : Engine σ} {state : σ} {r after : Reader ι} {settings : PageSettings} {e : Error}
    (h : ((r.readAll settings).run engine state).value = (.error e, after)) :
    PageFault engine state r.mapper (r.pageRequest settings) e ∧
    (r.InPlace after ↔ (settings.first = true → r.offset = 0)) ∧
    ∀ (later : σ) (rest : List PageSettings), (∀ next ∈ rest, next.first = false) →
      (∀ before read behind, after.pages engine later rest = before ++ read :: behind →
        (∀ earlier ∈ before, ∃ e, earlier.result = .error e) → read.reader = after) ∧
      (settings.first = true → ∀ read ∈ after.pages engine later rest, read.Idle) := by
  have hafter := eq_seek_of_failed h
  refine ⟨(readAll_fails_iff.mp (congrArg Prod.fst h)).2, ?_, fun later rest hrest => ⟨?_, ?_⟩⟩
  · constructor
    · intro hplace hfirst
      rw [← hplace.offset_eq, hafter, Reader.startOf, if_pos hfirst]
      rfl
    · intro hkept
      have hsame : after = r := by
        rw [hafter, Reader.startOf]
        split
        next hfirst => rw [← hkept hfirst]; rfl
        next => rfl
      rw [hsame]
      exact r.inPlace_self
  · intro before read behind hpages hbefore
    exact reader_of_failed hrest hpages hbefore
  · intro hfirst
    have hoffset : after.offset = 0 := by
      rw [hafter, Reader.startOf, if_pos hfirst]
      rfl
    exact pages_idle hoffset later rest hrest

/-- A page behind others that is refused can be asked for again. -/
theorem failure_in_place_refused :
    let r : Reader Json :=
      { connector := {}, config := {}, target := ⟨⟨["news"]⟩, ⟨["text"]⟩⟩, mapper := .source, offset := 20 }
    let refusing : Script := { replies := [(.search, .error (.status 503 "busy"))] }
    let next : PageSettings := { first := false }
    ∃ e after, ((r.readAll next).run Script.engine refusing).value = (.error e, after) ∧ r.InPlace after := by
  intro r refusing next
  have hrun : ((r.readAll next).run Script.engine refusing).value = (.error (.engine (.status 503 "busy")), r) := rfl
  exact ⟨_, r, hrun, (failure_in_place_iff hrun).2.1.mpr (by decide)⟩

/-- Of three documents one is read, then a call that starts over is refused: the next call returns an empty page, as
if all had been read. -/
theorem not_in_place_restarted :
    let hits : List Json := [.object [("_id", .string "a"), ("_source", .string "one")]]
    let page : Json := .object [("hits", .object [("total", .natural 3), ("hits", .array hits)])]
    let script : Script :=
      { replies := [(.search, .ok page), (.search, .error (.status 503 "busy")), (.search, .ok page)] }
    let r : Reader Json :=
      { connector := {}, config := { limit := 1 }, target := ⟨⟨["news"]⟩, ⟨["text"]⟩⟩, mapper := .source }
    let start : PageSettings := {}
    let next : PageSettings := { first := false }
    ∃ read refused idle, r.pages Script.engine script [start, start, next] = [read, refused, idle] ∧
      refused.result = .error (.engine (.status 503 "busy")) ∧ refused.reader.offset = 1 ∧ refused.offset = 0 ∧
      ¬ refused.reader.InPlace idle.reader ∧ idle.Idle := by
  intro hits page script r start next
  -- After the failure, the offset is that of an iteration at its end.
  refine ⟨_, _, _, rfl, rfl, rfl, rfl, ?_, ?_⟩
  · intro hplace
    have hmoved : (0 : UInt64) = 1 := hplace.offset_eq
    revert hmoved
    decide
  · exact ⟨readAll_of_done _ rfl rfl, rfl, rfl⟩

end SearchStore
