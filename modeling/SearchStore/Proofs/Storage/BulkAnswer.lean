import SearchStore.Engine.Script
import SearchStore.Proofs.Json.Layers
import SearchStore.Proofs.Storage.Operations

/-!
# Answers to batches

The engine answers a batch as a whole even if it did not store all of its documents: the answer raises a flag, and has
an item for each document that says what became of it. What is wrong with an answer is its first rejection, with the
status and the cause that this item gives, or, if no item was rejected, all of the answer (`BulkFault`). Every answer
has such a fault (`exists_bulkFault`), and the one of an answer that raises the flag is what the check of it reports
(`checkBulk_of_fault`).

A batch that was answered ends as the check of the answer does (`value_of_bulk_reply`), so one of which documents were
rejected fails with the first of them (`bulk_failures_reported`).
-/

namespace SearchStore

variable {σ : Type}

/-! ### Items of an answer -/

/-- The cause for which the document of an item was not stored. Items of stored documents have none, nor have those of
other actions. -/
def rejection? (item : Json) : Option Json := item.path? ["index", "error"]

/-- The status that an item gives, in 16 bits, or 500 if it gives no natural number. -/
inductive HasStatus (item : Json) : UInt16 → Prop where
  | given {n : UInt64} {code : UInt16} : item.path? ["index", "status"] = some (.natural n) →
      code.toNat = n.toNat % UInt16.size → HasStatus item code
  | missing : (∀ n, item.path? ["index", "status"] ≠ some (.natural n)) → HasStatus item 500

/-- What is wrong with an answer that flags a failure. -/
inductive BulkFault (answer : Json) : EngineError → Prop where
  | item {before after : List Json} {item cause : Json} {code : UInt16} :
      answer.get? "items" = some (.array (before ++ item :: after)) →
      (∀ other ∈ before, rejection? other = none) → rejection? item = some cause → HasStatus item code →
      BulkFault answer (.status code cause.render)
  | whole : (∀ items, answer.get? "items" = some (.array items) → ∀ item ∈ items, rejection? item = none) →
      BulkFault answer (.status 500 answer.render)

/-- The first item of an answer whose document was not stored. -/
def firstRejected? (answer : Json) : Option Json :=
  (Json.listItems (answer.get? "items")).find? fun item => (rejection? item).isSome

theorem firstRejected?_eq_some_iff {answer item : Json} : firstRejected? answer = some item ↔
    ∃ before after cause, answer.get? "items" = some (.array (before ++ item :: after)) ∧
      (∀ other ∈ before, rejection? other = none) ∧ rejection? item = some cause := by
  rw [firstRejected?, List.find?_eq_some_iff_append]
  constructor
  · rintro ⟨hrejected, before, after, hitems, hbefore⟩
    obtain ⟨cause, hcause⟩ := Option.isSome_iff_exists.mp hrejected
    have hitem : item ∈ Json.listItems (answer.get? "items") := by simp [hitems]
    have harray := Json.eq_array_of_mem_listItems hitem
    rw [hitems] at harray
    refine ⟨before, after, cause, harray, ?_, hcause⟩
    intro other hother
    simpa using hbefore other hother
  · rintro ⟨before, after, cause, hitems, hbefore, hcause⟩
    refine ⟨by simp [hcause], before, after, ?_, ?_⟩
    · rw [hitems]
      rfl
    · intro other hother
      simp [hbefore other hother]

theorem firstRejected?_eq_none_iff {answer : Json} : firstRejected? answer = none ↔
    ∀ items, answer.get? "items" = some (.array items) → ∀ item ∈ items, rejection? item = none := by
  rw [firstRejected?, List.find?_eq_none]
  constructor
  · intro hnone items hitems item hitem
    rw [hitems] at hnone
    simpa using hnone item hitem
  · intro hnone item hitem
    have harray := Json.eq_array_of_mem_listItems hitem
    simp [hnone _ harray item hitem]

theorem exists_hasStatus (item : Json) : ∃ code, HasStatus item code := by
  by_cases h : ∃ n, item.path? ["index", "status"] = some (.natural n)
  · obtain ⟨n, hn⟩ := h
    exact ⟨n.toUInt16, .given hn n.toNat_toUInt16⟩
  · exact ⟨500, .missing (not_exists.mp h)⟩

/-- Every answer has a fault: that of its first rejected item, or else its own. -/
theorem exists_bulkFault (answer : Json) : ∃ fault, BulkFault answer fault := by
  cases hfirst : firstRejected? answer with
  | some item =>
    obtain ⟨before, after, cause, hitems, hbefore, hcause⟩ := firstRejected?_eq_some_iff.mp hfirst
    obtain ⟨code, hstatus⟩ := exists_hasStatus item
    exact ⟨_, .item hitems hbefore hcause hstatus⟩
  | none => exact ⟨_, .whole (firstRejected?_eq_none_iff.mp hfirst)⟩

/-! ### The check of an answer -/

theorem bind_asNatural?_eq_some_iff {value : Option Json} {n : UInt64} :
    value.bind Json.asNatural? = some n ↔ value = some (.natural n) := by
  cases value with
  | none => simp
  | some value =>
    cases value with
    | number number => cases number <;> simp [Json.asNatural?, Json.natural]
    | null | bool _ | string _ | array _ | object _ => simp [Json.asNatural?, Json.natural]

namespace Writer

theorem failedAction?_eq (answer : Json) :
    failedAction? answer = (firstRejected? answer).bind (Json.get? "index") := by
  have hfailed : ∀ item : Json,
      (item.get? "index").any (fun action => (action.get? "error").isSome) = (rejection? item).isSome := by
    intro item
    rw [rejection?, Json.path?_pair]
    cases item.get? "index" <;> rfl
  -- Items without an action are dropped before the search, and count as not rejected in it.
  unfold failedAction? firstRejected? Json.listItems
  simp only [List.find?_filterMap, hfailed]

theorem actionStatus_eq {item action : Json} {code : UInt16} (haction : item.get? "index" = some action)
    (h : HasStatus item code) : actionStatus action = code := by
  have hpath : item.path? ["index", "status"] = action.get? "status" := by
    rw [Json.path?_pair, haction, Option.bind_some]
  unfold actionStatus
  cases h with
  | @given n _ hn hcode =>
    rw [hpath] at hn
    rw [bind_asNatural?_eq_some_iff.mpr hn, Option.getD_some, ← UInt16.toNat_inj, hcode]
    exact n.toNat_toUInt16
  | missing hnone =>
    have habsent : (action.get? "status").bind Json.asNatural? = none := by
      rw [Option.eq_none_iff_forall_ne_some]
      intro n hn
      exact hnone n (hpath.trans (bind_asNatural?_eq_some_iff.mp hn))
    rw [habsent]
    rfl

/-- An answer that flags a failure is refused with its fault. -/
theorem checkBulk_of_fault {answer : Json} {fault : EngineError} (hflag : answer.get? "errors" = some (.bool true))
    (h : BulkFault answer fault) : checkBulk answer = .error (.engine fault) := by
  rw [checkBulk, if_pos hflag, failedAction?_eq]
  cases h with
  | item hitems hbefore hcause hstatus =>
    have hfirst := firstRejected?_eq_some_iff.mpr ⟨_, _, _, hitems, hbefore, hcause⟩
    rw [rejection?, Json.path?_pair] at hcause
    obtain ⟨action, haction, herror⟩ := Option.bind_eq_some_iff.mp hcause
    rw [hfirst, Option.bind_some, haction]
    simp only [herror, Option.getD_some, actionStatus_eq haction hstatus]
  | whole hnone => rw [firstRejected?_eq_none_iff.mpr hnone, Option.bind_none]

end Writer

/-- A result that tells the fault of an answer, if and only if the answer flags a failure. -/
structure TellsFault (answer : Json) (result : Except Error Unit) : Prop where
  fails_iff : (∃ e, result = .error e) ↔ answer.get? "errors" = some (.bool true)
  error_iff : ∀ e, result = .error e ↔
    answer.get? "errors" = some (.bool true) ∧ ∃ fault, BulkFault answer fault ∧ e = .engine fault

namespace Writer

theorem tellsFault_checkBulk (answer : Json) : TellsFault answer (checkBulk answer) := by
  by_cases hflag : answer.get? "errors" = some (.bool true)
  · obtain ⟨fault, hfault⟩ := exists_bulkFault answer
    have hcheck := checkBulk_of_fault hflag hfault
    constructor
    · exact ⟨fun _ => hflag, fun _ => ⟨_, hcheck⟩⟩
    · intro e
      -- The check has one result, so the fault that exists is the one that it reports.
      constructor
      · intro he
        exact ⟨hflag, fault, hfault, Except.error.inj (he.symm.trans hcheck)⟩
      · rintro ⟨-, other, hother, rfl⟩
        exact checkBulk_of_fault hflag hother
  · have hcheck : checkBulk answer = .ok () := if_neg hflag
    rw [hcheck]
    constructor
    · exact ⟨nofun, fun h => absurd h hflag⟩
    · intro e
      exact ⟨nofun, fun h => absurd h.1 hflag⟩

/-! ### Batches that were answered -/

/-- A batch with a bulk request ends as the reply to it is checked. One of a single document has no such request. -/
theorem value_of_bulk_reply (w : Writer) {documents : List Document} {engine : Engine σ} {state : σ}
    {entry : Call × Reply} (hentry : entry ∈ (w.writeMany documents).replies engine state)
    (hbulk : entry.1.method = .bulk) :
    ((w.writeMany documents).execute engine state).value = storedBatch entry.2 := by
  match documents with
  | [] => cases hentry
  | [d] =>
    obtain ⟨body, hasks⟩ := w.exists_asksIf_write d
    obtain ⟨-, hcall, -⟩ := hasks.of_mem_replies hentry
    rw [hcall] at hbulk
    cases hbulk
  | first :: second :: rest =>
    obtain ⟨lines, hasks⟩ := w.exists_asksIf_writeBatch (first :: second :: rest)
    obtain ⟨-, -, hvalue⟩ := hasks.of_mem_replies hentry
    exact hvalue

end Writer

/-- **A batch fails with the first document that was rejected.** The check of an answer fails if and only if the answer
flags a failure. It then reports the status, in 16 bits, and the cause of the first item that was rejected, whatever
stands in front of it and behind it: documents that were stored, items of other actions, further rejections. Where
no item was rejected, or the answer has no list of items, it reports the status 500 with all of the answer. Every batch
whose bulk request is answered ends just so: it counts as stored if and only if the answer flags no failure. -/
theorem bulk_failures_reported :
    (∀ answer, TellsFault answer (Writer.checkBulk answer)) ∧
    ∀ (w : Writer) (documents : List Document) (engine : Engine σ) (state : σ) (call : Call) (answer : Json),
      (call, .ok answer) ∈ (w.writeMany documents).replies engine state → call.method = .bulk →
        TellsFault answer ((w.writeMany documents).execute engine state).value := by
  refine ⟨Writer.tellsFault_checkBulk, ?_⟩
  intro w documents engine state call answer hreply hbulk
  have hvalue : ((w.writeMany documents).execute engine state).value = Writer.checkBulk answer :=
    w.value_of_bulk_reply hreply hbulk
  rw [hvalue]
  exact Writer.tellsFault_checkBulk answer

/-- Of three documents the second is the first that was rejected, behind the item of a deletion that failed. Its status
does not fit in 16 bits. -/
theorem bulk_failures_reported_second :
    let w : Writer := { connector := {}, config := {}, target := ⟨⟨["news"]⟩, ⟨["text"]⟩⟩ }
    let documents : List Document := [⟨"a", .ok .null⟩, ⟨"b", .ok .null⟩, ⟨"c", .ok .null⟩]
    let cause : Json := .object [("type", .string "mapper_parsing_exception")]
    let stored : Json := .object [("index", .object [("status", .natural 201)])]
    let removed : Json := .object [("delete", .object [("status", .natural 404), ("error", .null)])]
    let malformed : Json := .object [("index", .object [("status", .natural 65936), ("error", cause)])]
    let busy : Json := .object [("index", .object [("status", .natural 429), ("error", .string "busy")])]
    let answer : Json := .object [("errors", .bool true), ("items", .array [stored, removed, malformed, busy])]
    let script : Script := { replies := [(.bulk, .ok answer)] }
    (∃ call, (call, .ok answer) ∈ (w.writeMany documents).replies Script.engine script ∧ call.method = .bulk) ∧
    ((w.writeMany documents).execute Script.engine script).value = .error (.engine (.status 400 cause.render)) := by
  intro w documents cause stored removed malformed busy answer script
  let lines : List Json := [w.bulkHeader "a", .null, w.bulkHeader "b", .null, w.bulkHeader "c", .null]
  have hreply : (⟨.bulk, w.bulkRequest lines⟩, .ok answer) ∈
      (w.writeMany documents).replies Script.engine script := .head _
  have htells := bulk_failures_reported.2 w documents Script.engine script _ answer hreply rfl
  have hbefore : ∀ other ∈ [stored, removed], rejection? other = none := by decide
  have hstatus : HasStatus malformed 400 := .given rfl (by decide)
  have hfault : BulkFault answer (.status 400 cause.render) :=
    @BulkFault.item answer [stored, removed] [busy] malformed cause 400 rfl hbefore rfl hstatus
  refine ⟨⟨_, hreply, rfl⟩, ?_⟩
  rw [htells.error_iff]
  exact ⟨rfl, _, hfault, rfl⟩

end SearchStore
