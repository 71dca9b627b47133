import SearchStore.Proofs.Finder.Operations
import SearchStore.Proofs.Http.Sending

/-!
# Scrolls over HTTP

A finder that goes on with a scroll sends the cursor as it is, and one that ends a scroll sends the fields of the
cursor between commas. So a cursor without a comma is passed through, and one with a comma is taken apart.

An engine that keeps scrolls (`KeepsScrolls`) has a view from cursors to the contexts that they lead to. A request
closes the contexts of the identifiers that it releases, and no others: `isOpen_after` says so of one call of a
finder, and `closes_iff` of a run, by induction on the calls. `scrolls_released_iff` collects what is sent, and says
of which runs it is true that they release the contexts of the cursors that they end.
-/

namespace SearchStore

open SearchStore.Action (AsksIf)
open Http (Request)

variable {ι σ κ : Type}

/-! ### Requests about scrolls -/

namespace Http.Request

/-- The identifiers of scrolls in the body of a request: one, or a list of them. -/
def scrolls (request : Request) : List String :=
  match request.body with
  | .json body =>
    match body.get? "scroll_id" with
    | some (.string id) => [id]
    | some (.array items) => items.filterMap Json.asString?
    | _ => []
  | _ => []

/-- The identifiers of the scrolls that a request releases. -/
def released (request : Request) : List String :=
  if request.verb = .delete ∧ request.path = scrollPath then request.scrolls else []

theorem released_of_verb_ne {request : Request} (h : request.verb ≠ .delete) : request.released = [] :=
  if_neg fun hdelete => h hdelete.1

/-- The request that names a list of identifiers to be released. -/
def release (ids : List String) : Request :=
  { verb := .delete, path := scrollPath, body := .json (.object [("scroll_id", Json.strings ids)]) }

theorem released_release (ids : List String) : (release ids).released = ids := by
  have hbody : (release ids).released = (ids.map Json.string).filterMap Json.asString? := rfl
  have hitem : Json.asString? ∘ Json.string = some := rfl
  rw [hbody, List.filterMap_map, hitem, List.filterMap_some]

end Http.Request

namespace Finder

variable (f : Finder ι) (cursor : String)

theorem ofCall_scrollNext :
    Request.ofCall ⟨.scroll, f.scrollNextRequest cursor⟩ =
      .ok { verb := .post, path := Request.scrollPath, body := .json (f.scrollNextRequest cursor) } := by
  simp [Request.ofCall, Request.ofParts, Request.scrollParts, scrollNextRequest, scrollEntry,
    Http.Parts.ofParams, Http.Parts.ofFields, Http.Parts.add, Http.Parts.pathKeys, Http.parameterText]

/-- The request that ends a scroll names the fields of its cursor. -/
theorem ofCall_scrollEnd :
    Request.ofCall ⟨.clearScroll, scrollEndRequest cursor⟩ = .ok (Request.release (Text.split ',' cursor)) := by
  simp [Request.ofCall, Request.ofParts, Request.clearScrollParts, Request.release, scrollEndRequest,
    Http.Parts.ofParams, Http.Parts.ofFields, Http.Parts.add, Http.Parts.pathKeys, Http.parameterText]

variable {f cursor}

theorem scrollPath_eq :
    Request.scrollPath = String.ofList ('/' :: ['/'].intercalate ["_search".toList, "scroll".toList]) := by
  decide

theorem sends_scrollNext (hcursor : Text.isBlank cursor = false) :
    Http.Sends (f.scrollNext cursor) .post "_search/scroll" (f.scrollNextRequest cursor) := by
  have hasks := (f.asksIf_scrollNext cursor).asks hcursor
  exact Http.sends_of_asks hasks (f.ofCall_scrollNext cursor) scrollPath_eq rfl rfl (by decide) (by decide)
    (by decide) (by decide)

theorem sends_scrollEnd (hcursor : Text.isBlank cursor = false) :
    Http.Sends (f.scrollEnd cursor) .delete "_search/scroll"
      (.object [("scroll_id", Json.strings (Text.split ',' cursor))]) := by
  have hasks := (f.asksIf_scrollEnd cursor).asks hcursor
  exact Http.sends_of_asks hasks (ofCall_scrollEnd cursor) scrollPath_eq rfl rfl (by decide) (by decide)
    (by decide) (by decide)

end Finder

/-! ### Open scrolls -/

/-- The contexts that cursors lead to. -/
abbrev ScrollView (κ : Type) := String → Option κ

/-- A context is open if a cursor leads to it. -/
def ScrollView.IsOpen (view : ScrollView κ) (k : κ) : Prop := ∃ cursor, view cursor = some k

/-- The answers of an engine whose states are seen as open scrolls. The contexts of the identifiers that a request
releases are closed, and all others stay open, though maybe under other cursors. -/
structure KeepsScrolls (engine : Engine σ) (view : σ → ScrollView κ) : Prop where
  connect : ∀ s, (engine.connect s).1 = .ok () ∧ view (engine.connect s).2 = view s
  answer : ∀ s call request k, Request.ofCall call = .ok request → (view s).IsOpen k →
    ((view (engine.answer call s).2).IsOpen k ↔ ∀ id ∈ request.released, view s id ≠ some k)

/-- A call of a finder about scrolls. -/
inductive ScrollCall where
  | start (query : Json)
  | next (cursor : String)
  | finish (cursor : String)

namespace ScrollCall

/-- The engine after a call. -/
def after (f : Finder ι) (engine : Engine σ) (s : σ) : ScrollCall → σ
  | start query => ((f.scrollStart query).execute engine s).state
  | next cursor => ((f.scrollNext cursor).execute engine s).state
  | finish cursor => ((f.scrollEnd cursor).execute engine s).state

/-- The cursor that a call ends; a blank one is refused. -/
def ended : ScrollCall → List String
  | start _ | next _ => []
  | finish cursor => if Text.isBlank cursor then [] else [cursor]

/-- The identifiers that a call releases: the fields of the cursor that it ends. -/
def released (call : ScrollCall) : List String := call.ended.flatMap (Text.split ',')

theorem released_eq_ended {call : ScrollCall} (h : ∀ cursor ∈ call.ended, ',' ∉ cursor.toList) :
    call.released = call.ended := by
  unfold released
  have hfields : ∀ cursor ∈ call.ended, Text.split ',' cursor = [cursor] := fun cursor hcursor =>
    Text.split_eq_singleton_iff.mpr (h cursor hcursor)
  rw [List.flatMap_def, List.map_congr_left hfields, ← List.flatMap_def]
  exact List.flatMap_singleton' call.ended

end ScrollCall

/-! ### One call -/

section
variable {engine : Engine σ} {view : σ → ScrollView κ} (h : KeepsScrolls engine view)
include h

theorem isOpen_of_asksIf {α : Type} {a : Action α} {valid : Prop} {call : Call} {finish : Reply → Except Error α}
    (ha : AsksIf a valid call finish) {request : Request} (hrequest : Request.ofCall call = .ok request) {s : σ}
    {k : κ} (hopen : (view s).IsOpen k) :
    (view (a.execute engine s).state).IsOpen k ↔
      (valid → ∀ id ∈ request.released, view s id ≠ some k) := by
  by_cases hvalid : valid
  · obtain ⟨hconnect, hview⟩ := h.connect s
    rw [(ha.asks hvalid).state_eq hconnect,
      h.answer (engine.connect s).2 call request k hrequest (by rwa [hview]), hview]
    exact ⟨fun hkept _ => hkept, fun hkept => hkept hvalid⟩
  · obtain ⟨result, hsettles⟩ := ha.settles hvalid
    rw [hsettles.state_eq]
    exact iff_of_true hopen fun hvalid' => absurd hvalid' hvalid

/-- A call of a finder closes the contexts of the identifiers that it releases. -/
theorem isOpen_after (f : Finder ι) (call : ScrollCall) {s : σ} {k : κ} (hopen : (view s).IsOpen k) :
    (view (call.after f engine s)).IsOpen k ↔ ∀ id ∈ call.released, view s id ≠ some k := by
  cases call with
  | start query =>
    have hstart := isOpen_of_asksIf h (f.asksIf_scrollStart query) rfl hopen
    rw [Request.released_of_verb_ne (by simp [Request.ofParts])] at hstart
    refine hstart.trans (iff_of_true ?_ ?_)
    · simp
    · simp [ScrollCall.released, ScrollCall.ended]
  | next cursor =>
    have hnext := isOpen_of_asksIf h (f.asksIf_scrollNext cursor) (f.ofCall_scrollNext cursor) hopen
    rw [Request.released_of_verb_ne (by simp)] at hnext
    refine hnext.trans (iff_of_true ?_ ?_)
    · simp
    · simp [ScrollCall.released, ScrollCall.ended]
  | finish cursor =>
    have hfinish := isOpen_of_asksIf h (f.asksIf_scrollEnd cursor) (Finder.ofCall_scrollEnd cursor) hopen
    rw [Request.released_release] at hfinish
    refine hfinish.trans ?_
    cases hcursor : Text.isBlank cursor with
    | true => simp [ScrollCall.released, ScrollCall.ended, hcursor]
    | false => simp [ScrollCall.released, ScrollCall.ended, hcursor]

end

/-! ### Runs -/

/-- A run closes a context: it is open before one of the calls, and not after it. -/
def Closes (f : Finder ι) (engine : Engine σ) (view : σ → ScrollView κ) (k : κ) : List ScrollCall → σ → Prop
  | [], _ => False
  | call :: rest, s =>
    ((view s).IsOpen k ∧ ¬ (view (call.after f engine s)).IsOpen k) ∨
      Closes f engine view k rest (call.after f engine s)

/-- A run names a context: one of the texts that `names` gives of a call leads to it when the call is made. -/
def Names (names : ScrollCall → List String) (f : Finder ι) (engine : Engine σ) (view : σ → ScrollView κ) (k : κ) :
    List ScrollCall → σ → Prop
  | [], _ => False
  | call :: rest, s =>
    (∃ id ∈ names call, view s id = some k) ∨ Names names f engine view k rest (call.after f engine s)

theorem names_congr {names others : ScrollCall → List String} (f : Finder ι) (engine : Engine σ)
    (view : σ → ScrollView κ) (k : κ) {calls : List ScrollCall} (h : ∀ call ∈ calls, names call = others call)
    (s : σ) : Names names f engine view k calls s ↔ Names others f engine view k calls s := by
  induction calls generalizing s with
  | nil => exact Iff.rfl
  | cons call rest ih =>
    obtain ⟨hcall, hrest⟩ := List.forall_mem_cons.mp h
    rw [Names, Names, hcall, ih hrest]

/-- A run closes the contexts of the identifiers that its calls release. -/
theorem closes_iff {engine : Engine σ} {view : σ → ScrollView κ} (h : KeepsScrolls engine view) (f : Finder ι)
    (k : κ) (calls : List ScrollCall) (s : σ) :
    Closes f engine view k calls s ↔ Names ScrollCall.released f engine view k calls s := by
  induction calls generalizing s with
  | nil => exact Iff.rfl
  | cons call rest ih =>
    rw [Closes, Names, ih]
    refine or_congr_left ⟨fun ⟨hopen, hclosed⟩ => ?_, fun ⟨id, hid, hview⟩ => ?_⟩
    · rw [isOpen_after h f call hopen] at hclosed
      simpa using hclosed
    · have hopen : (view s).IsOpen k := ⟨id, hview⟩
      refine ⟨hopen, fun hkept => ?_⟩
      exact (isOpen_after h f call hopen).mp hkept id hid hview

/-! ### A table of scrolls -/

/-- The open scrolls of an engine, each with a cursor of its own, and the cursors that it gives out next. -/
structure ScrollTable where
  opened : List String := []
  fresh : List String := []

namespace ScrollTable

/-- Every open scroll is known by its cursor. -/
def view (t : ScrollTable) : ScrollView String := fun cursor =>
  if cursor ∈ t.opened then some cursor else none

theorem view_eq_some_iff {t : ScrollTable} {cursor k : String} :
    t.view cursor = some k ↔ cursor ∈ t.opened ∧ cursor = k := by
  unfold view
  split <;> simp_all

theorem isOpen_view_iff {t : ScrollTable} {k : String} : t.view.IsOpen k ↔ k ∈ t.opened := by
  simp [ScrollView.IsOpen, view_eq_some_iff]

/-- An empty page of a scroll. -/
def page (cursor : String) : Json :=
  .object
    [("_scroll_id", .string cursor), ("hits", .object [("total", .natural 0), ("hits", .array [])])]

/-- A search opens a scroll, and other requests find the scrolls that they name, and may release them. -/
def answer (call : Call) (t : ScrollTable) : Reply × ScrollTable :=
  match Request.ofCall call with
  | .error e => (.error e, t)
  | .ok request =>
    let issued := if call.method = .search then t.fresh.take 1 else []
    let found := request.scrolls.filter fun cursor => t.opened.contains cursor
    let reply : Reply :=
      match issued ++ found with
      | cursor :: _ => .ok (page cursor)
      | [] => .error (.notFound request.path)
    (reply,
      { opened := (issued ++ t.opened).filter fun cursor => !request.released.contains cursor
        fresh := t.fresh.drop issued.length })

/-- The engine of a table. -/
def engine : Engine ScrollTable where
  connect t := (.ok (), t)
  answer := answer

theorem keepsScrolls_engine : KeepsScrolls engine view where
  connect t := ⟨rfl, rfl⟩
  answer t call request k hrequest hopen := by
    rw [isOpen_view_iff] at hopen ⊢
    have hopened : k ∈ (engine.answer call t).2.opened ↔ k ∉ request.released := by
      simp [engine, answer, hrequest, hopen]
    have hnamed : (∀ id ∈ request.released, t.view id ≠ some k) ↔ k ∉ request.released := by
      simp only [ne_eq, view_eq_some_iff, not_and]
      exact ⟨fun hnone hk => hnone k hk hopen rfl, fun hk id hid _ hsame => hk (hsame ▸ hid)⟩
    rw [hopened, hnamed]

/-- A scroll whose cursor has a comma stays open in every run. -/
theorem mem_opened_after (f : Finder ι) (call : ScrollCall) {t : ScrollTable} {cursor : String}
    (hcomma : ',' ∈ cursor.toList) (h : cursor ∈ t.opened) : cursor ∈ (call.after f engine t).opened := by
  rw [← isOpen_view_iff] at h ⊢
  rw [isOpen_after keepsScrolls_engine f call h]
  intro id hid hview
  obtain ⟨ended, -, hfield⟩ := List.mem_flatMap.mp hid
  obtain ⟨-, rfl⟩ := view_eq_some_iff.mp hview
  exact Text.not_mem_of_mem_split hfield hcomma

theorem names_ended (f : Finder ι) {cursor : String} (hcomma : ',' ∈ cursor.toList) {calls : List ScrollCall}
    (hended : cursor ∈ calls.flatMap ScrollCall.ended) {t : ScrollTable} (h : cursor ∈ t.opened) :
    Names ScrollCall.ended f engine view cursor calls t := by
  induction calls generalizing t with
  | nil => cases hended
  | cons call rest ih =>
    rw [List.flatMap_cons, List.mem_append] at hended
    rcases hended with hcall | hrest
    · exact .inl ⟨cursor, hcall, view_eq_some_iff.mpr ⟨h, rfl⟩⟩
    · exact .inr (ih hrest (mem_opened_after f call hcomma h))

theorem not_closes (f : Finder ι) {cursor : String} (hcomma : ',' ∈ cursor.toList) (calls : List ScrollCall)
    {t : ScrollTable} (h : cursor ∈ t.opened) : ¬ Closes f engine view cursor calls t := by
  induction calls generalizing t with
  | nil => exact not_false
  | cons call rest ih =>
    have hafter := mem_opened_after f call hcomma h
    rintro (⟨-, hclosed⟩ | hrest)
    · exact hclosed (isOpen_view_iff.mpr hafter)
    · exact ih hafter hrest

end ScrollTable

/-! ### What is released -/

/-- **Ended scrolls are released.** Over HTTP, a finder asks for the next page with the cursor as it is, and for the
release of a scroll with the fields of its cursor between commas, which are the cursor alone exactly if it has no
comma. On every engine that keeps scrolls, the contexts that a run closes are those of the fields. They are those of
the cursors that the run ends, on every such engine, exactly if none of these cursors has a comma. -/
theorem scrolls_released_iff (f : Finder ι) :
    (∀ cursor, Text.isBlank cursor = false →
      Http.Sends (f.scrollNext cursor) .post "_search/scroll"
        (.object [("scroll_id", .string cursor), ("scroll", .string f.config.scrollTimeout)]) ∧
      Http.Sends (f.scrollEnd cursor) .delete "_search/scroll"
        (.object [("scroll_id", Json.strings (Text.split ',' cursor))]) ∧
      (Text.split ',' cursor = [cursor] ↔ ',' ∉ cursor.toList)) ∧
    ∀ calls : List ScrollCall,
      (∀ (σ κ : Type) (engine : Engine σ) (view : σ → ScrollView κ), KeepsScrolls engine view → ∀ k s,
        (Closes f engine view k calls s ↔ Names ScrollCall.released f engine view k calls s)) ∧
      ((∀ (σ κ : Type) (engine : Engine σ) (view : σ → ScrollView κ), KeepsScrolls engine view → ∀ k s,
          (Closes f engine view k calls s ↔ Names ScrollCall.ended f engine view k calls s)) ↔
        ∀ cursor ∈ calls.flatMap ScrollCall.ended, ',' ∉ cursor.toList) := by
  refine ⟨fun cursor hcursor => ⟨Finder.sends_scrollNext hcursor, Finder.sends_scrollEnd hcursor,
    Text.split_eq_singleton_iff⟩, fun calls => ⟨?_, ?_⟩⟩
  · intro σ κ engine view h k s
    exact closes_iff h f k calls s
  · constructor
    · intro h cursor hended hcomma
      have hcloses := h _ _ ScrollTable.engine ScrollTable.view ScrollTable.keepsScrolls_engine cursor
        { opened := [cursor] }
      have hopened : cursor ∈ ({ opened := [cursor] } : ScrollTable).opened := List.mem_singleton_self cursor
      exact ScrollTable.not_closes f hcomma calls hopened
        (hcloses.mpr (ScrollTable.names_ended f hcomma hended hopened))
    · intro h σ κ engine view hkeeps k s
      have hcalls : ∀ call ∈ calls, call.released = call.ended := by
        intro call hcall
        apply ScrollCall.released_eq_ended
        intro cursor hcursor
        exact h cursor (List.mem_flatMap.mpr ⟨call, hcall, hcursor⟩)
      rw [closes_iff hkeeps, names_congr f engine view k hcalls]

/-- A run that follows the cursor that it is given, and releases it. -/
theorem scrolls_released_plain :
    let f : Finder Json := { connector := {}, config := {}, mapper := .source }
    let calls : List ScrollCall := [.start (.object []), .next "c1=", .finish "c1="]
    let started := (f.scrollStart (.object [])).execute ScrollTable.engine { fresh := ["c1="] }
    started.value = .ok { cursor := some "c1=" } ∧
      (∀ cursor ∈ calls.flatMap ScrollCall.ended, ',' ∉ cursor.toList) ∧
      Closes f ScrollTable.engine ScrollTable.view "c1=" calls { fresh := ["c1="] } := by
  intro f calls started
  have hplain : ∀ cursor ∈ calls.flatMap ScrollCall.ended, ',' ∉ cursor.toList := by decide +kernel
  have hcloses := ((scrolls_released_iff f).2 calls).2.mpr hplain _ _ ScrollTable.engine ScrollTable.view
    ScrollTable.keepsScrolls_engine "c1=" { fresh := ["c1="] }
  refine ⟨by decide +kernel, hplain, hcloses.mpr (.inr (.inr (.inl ⟨"c1=", ?_, ?_⟩)))⟩
  · decide +kernel
  · decide +kernel

/-- A cursor that is given out with a comma in it is taken apart when its scroll ends, which stays open. -/
theorem scrollEnd_splits_cursor :
    let f : Finder Json := { connector := {}, config := {}, mapper := .source }
    let carry : Http.Transport Unit := fun _ _ =>
      (.answered ⟨200, some "\x7b\"_scroll_id\":\"a,b\",\"hits\":\x7b\"total\":0,\"hits\":[]\x7d\x7d"⟩, ())
    let engine := Http.engine { nodes := ["http://[::1]"] } carry
    let started := (f.scrollStart (.object [])).execute engine { transport := () }
    let ended := (f.scrollEnd "a,b").execute engine started.state
    let given := ScrollCall.after f ScrollTable.engine { fresh := ["a,b"] } (.start (.object []))
    started.value = .ok { cursor := some "a,b" } ∧
      ended.state.arrived.map (·.body) =
        ["", "\x7b\"scroll_id\":[\"a\",\"b\"]\x7d"] ∧
      given.opened = ["a,b"] ∧ (ScrollCall.after f ScrollTable.engine given (.finish "a,b")).opened = ["a,b"] := by
  decide +kernel

end SearchStore
