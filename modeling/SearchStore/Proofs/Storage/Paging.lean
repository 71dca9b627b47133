import SearchStore.Proofs.Mapping
import SearchStore.Proofs.Storage.Operations
import SearchStore.Proofs.Storage.Reader

/-!
# Reading all documents page by page

An engine that serves pages (`ServesPages`) holds a fixed sequence of documents. It may refuse a connection
or a call at any time; when it answers a request for a page, it gives the documents from the asked place on
and the number of all. A run of `readAll` (`Reader.pages`) on such an engine is described by one invariant:
until it ends, the items so far are those in front of the offset (`Progress`).

`run_readAll` says what one call does, and `Progress.step` that a page keeps the invariant. `PagesSound`
states what follows for the calls of a run one after the other; `pages_sound` proves it by induction on the
settings of the calls, and `readAll_pages` reads it off for each call up to the end.
-/

namespace SearchStore

variable {σ ι : Type}

/-! ### Engines with pages -/

/-- An answer with the documents from `start` on, up to `size` of them, and the number of all documents,
which is given as a number or as the `value` of an object. -/
structure PageAnswer (docs : List Json) (start size : UInt64) (answer : Json) : Prop where
  source : answer.get? "_source" = none
  hits : answer.path? ["hits", "hits"] =
    some (.array ((docs.drop start.toNat).take size.toNat))
  total : ∃ total count, answer.path? ["hits", "total"] = some total ∧ count.toNat = docs.length ∧
    (total = .natural count ∨ total.get? "value" = some (.natural count))

/-- Whenever the engine answers a request for a page, the answer has that page. -/
def ServesPages (engine : Engine σ) (docs : List Json) : Prop :=
  ∀ (state : σ) (request : Json) (start size : UInt64) (answer : Json),
    PageRequest request start size → (engine.answer ⟨.search, request⟩ state).1 = .ok answer →
      PageAnswer docs start size answer

/-! ### Offsets -/

theorem toNat_saturatingAdd (a b : UInt64) :
    (saturatingAdd a b).toNat = min (a.toNat + b.toNat) (UInt64.size - 1) := by
  rw [saturatingAdd, UInt64.toNat_ofNat']
  apply Nat.mod_eq_of_lt
  have : UInt64.size = 2 ^ 64 := rfl
  omega

/-- A page of `limit` documents reaches the last of `total` ones and ends the reading, or the reader moves
behind it. -/
theorem advance_cases (r : Reader ι) {limit : UInt64} (total : UInt64) (hlimit : limit ≠ 0) :
    (total.toNat ≤ r.offset.toNat + limit.toNat ∧ (r.advance limit total).offset = 0) ∨
    (r.offset.toNat + limit.toNat < total.toNat ∧ r.offset < (r.advance limit total).offset ∧
      (r.advance limit total).offset.toNat = r.offset.toNat + limit.toNat) := by
  have hsum := toNat_saturatingAdd r.offset limit
  have htotal := total.toNat_lt_size
  have hpositive : 0 < limit.toNat := by
    rw [Nat.pos_iff_ne_zero]
    exact fun h => hlimit (UInt64.toNat_inj.mp h)
  have hnext : (r.advance limit total).offset =
      if total ≤ saturatingAdd r.offset limit then 0 else saturatingAdd r.offset limit := rfl
  rw [hnext]
  by_cases h : total ≤ saturatingAdd r.offset limit
  · have h' := UInt64.le_iff_toNat_le.mp h
    rw [if_pos h]
    exact .inl ⟨by omega, rfl⟩
  · have h' : ¬ total.toNat ≤ (saturatingAdd r.offset limit).toNat :=
      fun hle => h (UInt64.le_iff_toNat_le.mpr hle)
    have hexact : (saturatingAdd r.offset limit).toNat = r.offset.toNat + limit.toNat := by omega
    rw [if_neg h]
    exact .inr ⟨by omega, UInt64.lt_iff_toNat_lt.mpr (by omega), hexact⟩

/-! ### Progress -/

/-- Until the end, the items so far are those in front of the offset; at the end they are all. -/
def Progress (items sofar : List ι) (offset : UInt64) : Prop :=
  if offset = 0 then sofar = items
  else offset.toNat < items.length ∧ sofar = items.take offset.toNat

theorem Progress.step {items sofar : List ι} {r : Reader ι} {limit total : UInt64}
    (hsofar : sofar = items.take r.offset.toNat) (hlimit : limit ≠ 0)
    (htotal : total.toNat = items.length) :
    Progress items (sofar ++ (items.drop r.offset.toNat).take limit.toNat)
      (r.advance limit total).offset := by
  have hpages : sofar ++ (items.drop r.offset.toNat).take limit.toNat =
      items.take (r.offset.toNat + limit.toNat) := by
    rw [hsofar, List.take_add]
  rw [hpages]
  unfold Progress
  obtain ⟨hend, hoffset⟩ | ⟨hmore, hlt, hoffset⟩ := advance_cases r total hlimit
  · rw [if_pos hoffset, List.take_of_length_le (by omega)]
  · have hne : (r.advance limit total).offset ≠ 0 := by
      intro h
      rw [h] at hlt
      exact UInt64.not_lt_zero hlt
    rw [if_neg hne, hoffset]
    exact ⟨by omega, rfl⟩

/-! ### One call -/

namespace Reader

/-- The reader with its offset moved. -/
def seek (r : Reader ι) (offset : UInt64) : Reader ι := { r with offset }

/-- The number of documents that a call asks for. -/
def limitOf (r : Reader ι) (settings : PageSettings) : UInt64 := settings.limit.getD r.config.limit

/-- Where a call starts to read. -/
def startOf (r : Reader ι) (settings : PageSettings) : UInt64 :=
  if settings.first then 0 else r.offset

end Reader

/-- An engine that serves pages to a reader, whose parameters leave the requests alone and whose mapper
takes all documents. -/
structure Served (engine : Engine σ) (docs : List Json) (items : List ι) (r : Reader ι) : Prop where
  pages : ServesPages engine docs
  items : docs.mapM r.mapper.document = .ok items
  body : (r.config.parameters.layer "search").get? "body" = none
  start : (r.config.parameters.layer "search").get? "from" = none

theorem readAll_of_done (r : Reader ι) {settings : PageSettings} (hfirst : settings.first = false)
    (hoffset : r.offset = 0) : r.readAll settings = pure (.ok [], r) := by
  simp [Reader.readAll, hfirst, hoffset]

theorem readAll_eq_turn (r : Reader ι) {settings : PageSettings} (hstart : settings.first = true ∨ r.offset ≠ 0) :
    r.readAll settings =
      (r.seek (r.startOf settings)).turn (r.limitOf settings) (r.pageRequest settings) := by
  unfold Reader.readAll Reader.pageRequest Reader.startOf
  cases hfirst : settings.first with
  | true => rfl
  | false =>
      have hoffset : r.offset ≠ 0 := by simpa [hfirst] using hstart
      simp only [Bool.false_eq_true, if_false, if_neg hoffset]
      rfl

theorem pageRequest_startOf {r : Reader ι} (hbody : (r.config.parameters.layer "search").get? "body" = none)
    (hfrom : (r.config.parameters.layer "search").get? "from" = none) (settings : PageSettings) :
    PageRequest (r.pageRequest settings) (r.startOf settings) (r.limitOf settings) := by
  unfold Reader.pageRequest Reader.startOf
  cases settings.first with
  | true => exact r.pageRequest_first hbody hfrom _
  | false => exact r.pageRequest_next hbody hfrom _

/-- A call with pages left fails and leaves the reader at its start, or reads the page there and moves behind it. -/
theorem run_readAll {engine : Engine σ} {docs : List Json} {items : List ι} {r : Reader ι}
    (h : Served engine docs items r) {settings : PageSettings}
    (hstart : settings.first = true ∨ r.offset ≠ 0) (state : σ) :
    (∃ e, ((r.readAll settings).run engine state).value =
      (.error e, r.seek (r.startOf settings))) ∨
    ∃ total : UInt64, total.toNat = items.length ∧
      ((r.readAll settings).run engine state).value =
        (.ok ((items.drop (r.startOf settings).toNat).take (r.limitOf settings).toNat),
          (r.seek (r.startOf settings)).advance (r.limitOf settings) total) := by
  rw [readAll_eq_turn r hstart]
  obtain hfails | ⟨s, answer, page, hanswer, hmapped, hvalue⟩ :=
    (r.seek (r.startOf settings)).run_turn engine state (r.limitOf settings) (r.pageRequest settings)
  · exact .inl hfails
  · have hserved := h.pages s _ _ _ answer (pageRequest_startOf h.body h.start settings) hanswer
    obtain ⟨total, count, htotal, hcount, hform⟩ := hserved.total
    have hitems : page = (items.drop (r.startOf settings).toNat).take (r.limitOf settings).toNat := by
      have hslice := mapM_slice h.items (r.startOf settings).toNat (r.limitOf settings).toNat
      have hmap := Mapper.answer_of_hits r.mapper hserved.source hserved.hits
      exact Except.ok.inj (hmapped.symm.trans (hmap.trans hslice))
    have hlength : docs.length = items.length := (mapM_eq_ok_iff.mp h.items).length_eq
    refine .inr ⟨count, hcount.trans hlength, ?_⟩
    rw [hvalue, hitems, hitCount_eq htotal hform]

/-! ### Runs -/

/-- One call of a run: the reader before it, its settings, its result, and the offset that it leaves. -/
structure PageRead (ι : Type) where
  reader : Reader ι
  settings : PageSettings
  result : Except Error (List ι)
  offset : UInt64

namespace PageRead

/-- The items that a call returned. -/
def items (read : PageRead ι) : List ι :=
  match read.result with
  | .ok page => page
  | .error _ => []

/-- A call that returned an empty page without a word to the engine. -/
def Idle (read : PageRead ι) : Prop :=
  read.reader.readAll read.settings = pure (.ok [], read.reader) ∧ read.result = .ok [] ∧
    read.offset = 0

end PageRead

/-- The calls of a reader with the given settings, one after the other. -/
def Reader.pages (engine : Engine σ) : Reader ι → σ → List PageSettings → List (PageRead ι)
  | _, _, [] => []
  | r, state, settings :: rest =>
    let run := (r.readAll settings).run engine state
    { reader := r, settings, result := run.value.1, offset := run.value.2.offset } ::
      pages engine run.value.2 run.state rest

/-- What holds of a call, given the items before it and the calls behind it. -/
structure PageRead.Sound (items sofar : List ι) (read : PageRead ι) (later : List (PageRead ι)) :
    Prop where
  progress : Progress items (sofar ++ read.items) read.offset
  advances : ∀ page, read.result = .ok page →
    read.offset = 0 ∨ read.reader.startOf read.settings < read.offset
  stays : ∀ e, read.result = .error e → read.offset = read.reader.offset
  ends : read.offset = 0 → ∀ other ∈ later, other.Idle

/-- What holds of the calls until the offset is zero. -/
def PagesSound (items : List ι) : List ι → List (PageRead ι) → Prop
  | _, [] => True
  | sofar, read :: later =>
    read.Sound items sofar later ∧ (read.offset ≠ 0 → PagesSound items (sofar ++ read.items) later)

/-- Once nothing is left, no call does anything. -/
theorem pages_idle {engine : Engine σ} {r : Reader ι} (hoffset : r.offset = 0) :
    ∀ (state : σ) (rest : List PageSettings), (∀ settings ∈ rest, settings.first = false) →
      ∀ read ∈ r.pages engine state rest, read.Idle
  | _, [], _, read, hmem => by simp [Reader.pages] at hmem
  | state, settings :: rest, hrest, read, hmem => by
      have hdone := readAll_of_done r (hrest settings List.mem_cons_self) hoffset
      rw [Reader.pages, hdone] at hmem
      rcases List.mem_cons.mp hmem with rfl | hmem
      · exact ⟨hdone, rfl, hoffset⟩
      · exact pages_idle hoffset state rest (fun s hs => hrest s (List.mem_cons_of_mem _ hs)) read hmem

/-- A call that reads a page is sound, and so are the calls behind it if they go on soundly. -/
theorem pagesSound_of_page {engine : Engine σ} {items sofar : List ι} {r : Reader ι}
    {settings : PageSettings} {state : σ} {rest : List PageSettings} {total : UInt64}
    (hsofar : sofar = items.take (r.startOf settings).toNat) (hlimit : r.limitOf settings ≠ 0)
    (htotal : total.toNat = items.length) (hrest : ∀ settings ∈ rest, settings.first = false)
    (hrun : ((r.readAll settings).run engine state).value =
      (.ok ((items.drop (r.startOf settings).toNat).take (r.limitOf settings).toNat),
        (r.seek (r.startOf settings)).advance (r.limitOf settings) total))
    (hnext : ∀ (offset : UInt64) (sofar : List ι) (state : σ), offset ≠ 0 →
      Progress items sofar offset → PagesSound items sofar ((r.seek offset).pages engine state rest)) :
    PagesSound items sofar (r.pages engine state (settings :: rest)) := by
  have hprogress : Progress items _ _ :=
    Progress.step (r := r.seek (r.startOf settings)) hsofar hlimit htotal
  rw [Reader.pages, PagesSound]
  simp only [hrun]
  refine ⟨⟨hprogress, fun _ _ => ?_, ?_, ?_⟩, ?_⟩
  · exact (advance_cases _ total hlimit).imp (·.2) (·.2.1)
  · intro e he
    cases he
  · intro hend other hother
    exact pages_idle hend _ rest hrest other hother
  · intro hmore
    exact hnext _ _ _ hmore hprogress

/-- All calls that go on are sound until the offset is zero. -/
theorem pages_sound {engine : Engine σ} {docs : List Json} {items : List ι} {r : Reader ι}
    (h : Served engine docs items r) (rest : List PageSettings)
    (hrest : ∀ settings ∈ rest, settings.first = false ∧ r.limitOf settings ≠ 0) :
    ∀ (offset : UInt64) (sofar : List ι) (state : σ), offset ≠ 0 → Progress items sofar offset →
      PagesSound items sofar ((r.seek offset).pages engine state rest) := by
  induction rest with
  | nil =>
      intro offset sofar state _ _
      rw [Reader.pages, PagesSound]
      trivial
  | cons settings rest ih =>
      intro offset sofar state hoffset hprogress
      obtain ⟨hfirst, hlimit⟩ := hrest settings List.mem_cons_self
      have hlater : ∀ settings ∈ rest, settings.first = false ∧ r.limitOf settings ≠ 0 :=
        fun s hs => hrest s (List.mem_cons_of_mem _ hs)
      have hstart : (r.seek offset).startOf settings = offset := by
        simp [Reader.startOf, hfirst, Reader.seek]
      have hserved : Served engine docs items (r.seek offset) := ⟨h.pages, h.items, h.body, h.start⟩
      obtain ⟨e, hfails⟩ | ⟨total, htotal, hpage⟩ := run_readAll hserved (.inr hoffset) state
      · -- A failure changes neither the items so far nor the offset.
        rw [hstart] at hfails
        rw [Reader.pages, PagesSound]
        simp only [hfails, PageRead.items, List.append_nil]
        refine ⟨⟨?_, ?_, fun _ _ => rfl, fun hend => absurd hend hoffset⟩, fun _ => ?_⟩
        · rw [PageRead.items, List.append_nil]
          exact hprogress
        · intro page hpage
          cases hpage
        · exact ih hlater offset sofar _ hoffset hprogress
      · have hsofar : sofar = items.take ((r.seek offset).startOf settings).toNat := by
          rw [Progress, if_neg hoffset] at hprogress
          rw [hstart, hprogress.2]
        exact pagesSound_of_page hsofar hlimit htotal (fun s hs => (hlater s hs).1) hpage (ih hlater)

/-- What is sound until the offset is zero holds of each call up to there. -/
theorem PagesSound.of_append {items : List ι} {read : PageRead ι} {after : List (PageRead ι)} :
    ∀ {before : List (PageRead ι)} {sofar : List ι},
      PagesSound items sofar (before ++ read :: after) → (∀ earlier ∈ before, earlier.offset ≠ 0) →
        read.Sound items (sofar ++ before.flatMap PageRead.items) after
  | [], sofar, h, _ => by
      rw [List.nil_append, PagesSound] at h
      simpa using h.1
  | earlier :: before, sofar, h, hbefore => by
      rw [List.cons_append, PagesSound] at h
      have hlater := h.2 (hbefore earlier List.mem_cons_self)
      have := of_append hlater fun other hother => hbefore other (List.mem_cons_of_mem _ hother)
      simpa [List.append_assoc] using this

/-- **Paging is complete.** In a run that starts over with success, goes on with any settings of positive
size, and meets any failures on the way: up to the first call that leaves the offset zero, each success
moves the offset on, each failure leaves it, and the items so far are those in front of it. At that call
they are all items, in order, and every later call returns an empty page and asks nothing of the engine.
-/
theorem readAll_pages {engine : Engine σ} {docs : List Json} {items : List ι} {r : Reader ι}
    (h : Served engine docs items r) (state : σ) (start : PageSettings) (rest : List PageSettings)
    (hfirst : start.first = true) (hrest : ∀ settings ∈ rest, settings.first = false)
    (hlimits : ∀ settings ∈ start :: rest, r.limitOf settings ≠ 0)
    (hok : ∃ page, ((r.readAll start).run engine state).value.1 = .ok page) :
    ∀ before read after, r.pages engine state (start :: rest) = before ++ read :: after →
      (∀ earlier ∈ before, earlier.offset ≠ 0) →
        (∀ page, read.result = .ok page →
          read.offset = 0 ∨ read.reader.startOf read.settings < read.offset) ∧
        (∀ e, read.result = .error e → read.offset = read.reader.offset) ∧
        (read.offset ≠ 0 →
          (before ++ [read]).flatMap PageRead.items = items.take read.offset.toNat) ∧
        (read.offset = 0 →
          (before ++ [read]).flatMap PageRead.items = items ∧ ∀ later ∈ after, later.Idle) := by
  intro before read after hsplit hbefore
  obtain ⟨page, hpage⟩ := hok
  have hsound : PagesSound items [] (r.pages engine state (start :: rest)) := by
    obtain ⟨e, hfails⟩ | ⟨total, htotal, hrun⟩ := run_readAll h (.inl hfirst) state
    · rw [hfails] at hpage
      cases hpage
    · have hlater : ∀ settings ∈ rest, settings.first = false ∧ r.limitOf settings ≠ 0 :=
        fun s hs => ⟨hrest s hs, hlimits s (List.mem_cons_of_mem _ hs)⟩
      refine pagesSound_of_page ?_ (hlimits start List.mem_cons_self) htotal hrest hrun
        (pages_sound h rest hlater)
      rw [Reader.startOf, if_pos hfirst]
      rfl
  rw [hsplit] at hsound
  obtain ⟨hprogress, hadvances, hstays, hends⟩ := hsound.of_append hbefore
  rw [List.nil_append, Progress] at hprogress
  have hitems : (before ++ [read]).flatMap PageRead.items =
      before.flatMap PageRead.items ++ read.items := by simp
  refine ⟨hadvances, hstays, ?_, ?_⟩
  · intro hmore
    rw [if_neg hmore] at hprogress
    rw [hitems, hprogress.2]
  · intro hend
    rw [if_pos hend] at hprogress
    exact ⟨by rw [hitems, hprogress], hends hend⟩

/-- An engine that holds documents and refuses every second call. -/
def refusingEngine (docs : List Json) : Engine Nat where
  connect calls := (.ok (), calls)
  answer call calls :=
    let number (key : String) : UInt64 := ((call.params.get? key).bind Json.asNatural?).getD 0
    let page := (docs.drop (number "from").toNat).take (number "size").toNat
    let answer : Json :=
      .object
        [("hits", .object [("total", .natural (.ofNat docs.length)), ("hits", .array page)])]
    (if calls % 2 = 1 then .error (.status 503 "busy") else .ok answer, calls + 1)

theorem servesPages_refusingEngine {docs : List Json} (h : docs.length < UInt64.size) :
    ServesPages (refusingEngine docs) docs := by
  intro state request start size answer hrequest hanswer
  have hsize : ((request.get? "size").bind Json.asNatural?).getD 0 = size := by
    rw [hrequest.size]
    rfl
  have hstart : ((request.get? "from").bind Json.asNatural?).getD 0 = start := by
    rcases hrequest.start with hfrom | ⟨hfrom, rfl⟩
    all_goals
      rw [hfrom]
      rfl
  simp only [refusingEngine, hsize, hstart] at hanswer
  split at hanswer
  · cases hanswer
  · obtain rfl := Except.ok.inj hanswer
    refine ⟨rfl, rfl, _, .ofNat docs.length, rfl, ?_, .inl rfl⟩
    rw [UInt64.toNat_ofNat', Nat.mod_eq_of_lt h]

/-- Three documents in pages of two, with a refused call between them and one call behind the end. -/
theorem readAll_pages_refusing :
    let document (source : String) : Json := .object [("_source", .string source)]
    let docs := [document "a", document "b", document "c"]
    let r : Reader Json :=
      { connector := {}, config := {}, target := ⟨⟨["news"]⟩, ⟨["text"]⟩⟩, mapper := .source }
    let start : PageSettings := { limit := some 2 }
    let next : PageSettings := { first := false }
    Served (refusingEngine docs) docs [.string "a", .string "b", .string "c"] r ∧
    ∃ first refused last idle,
      r.pages (refusingEngine docs) 0 [start, next, next, next] = [first, refused, last, idle] ∧
      [first, refused, last].flatMap PageRead.items = [.string "a", .string "b", .string "c"] ∧
      idle.Idle := by
  intro document docs r start next
  have hserved : Served (refusingEngine docs) docs [.string "a", .string "b", .string "c"] r :=
    ⟨servesPages_refusingEngine (by decide), rfl, rfl, rfl⟩
  obtain ⟨first, refused, last, idle, hreads⟩ : ∃ first refused last idle,
      r.pages (refusingEngine docs) 0 [start, next, next, next] = [first, refused, last, idle] :=
    ⟨_, _, _, _, rfl⟩
  have hoffsets : [first, refused, last, idle].map PageRead.offset = [2, 2, 0, 0] := by
    rw [← hreads]
    decide +kernel
  simp only [List.map_cons, List.map_nil, List.cons.injEq, and_true] at hoffsets
  obtain ⟨hone, htwo, hthree, _⟩ := hoffsets
  have hend := (readAll_pages hserved 0 start [next, next, next] rfl (by decide) (by decide)
    ⟨_, rfl⟩ [first, refused] last [idle] hreads (by simp [hone, htwo])).2.2.2 hthree
  exact ⟨hserved, first, refused, last, idle, hreads, hend.1, hend.2 idle List.mem_cons_self⟩

end SearchStore
