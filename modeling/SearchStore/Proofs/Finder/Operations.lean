import SearchStore.Proofs.Engine.Replies
import SearchStore.Proofs.Finder.Order

/-!
# What operations of finders ask

Each operation of a finder checks its arguments and then asks one call. `asksIf_getByIdentifier` and its neighbours
say for each of them which arguments pass, which call it is, and what is made of the reply. A service compiles a
query without the engine, and then does what its finder does with the compiled query (`calls_find`,
`calls_scrollStart`).
-/

namespace SearchStore

open SearchStore.Action (Asks AsksIf Settles)

variable {ι σ : Type}

namespace Finder

variable (f : Finder ι)

/-! ### Documents by identifier -/

/-- Whether requests for single documents can address the target: one index, and one type unless the index is
`_all`. -/
def IsSingle : Prop := f.index.size ≤ 1 ∧ (f.docType.size ≤ 1 ∨ f.index.isAll = true)

theorem checkSingleIndex_of_isSingle (h : f.IsSingle) : checkSingleIndex f.index f.docType = .ok () := by
  obtain ⟨hindex, htype⟩ := h
  have hmany : ¬ (decide (1 < f.docType.size) && !f.index.isAll) = true := by
    rcases htype with hsize | hall
    · have hnot : ¬ 1 < f.docType.size := by omega
      simp [hnot]
    · simp [hall]
  rw [checkSingleIndex, if_neg (by omega), if_neg hmany]

theorem checkSingleIndex_of_not_isSingle (h : ¬ f.IsSingle) :
    ∃ e, checkSingleIndex f.index f.docType = .error e := by
  unfold checkSingleIndex
  by_cases hindex : 1 < f.index.size
  · exact ⟨_, if_pos hindex⟩
  · have hmany : (decide (1 < f.docType.size) && !f.index.isAll) = true := by
      have hnot : ¬ (f.docType.size ≤ 1 ∨ f.index.isAll = true) := fun htype => h ⟨by omega, htype⟩
      rw [not_or] at hnot
      simp only [Bool.and_eq_true, decide_eq_true_eq, Bool.not_eq_true']
      exact ⟨by omega, by simpa using hnot.2⟩
    rw [if_neg hindex, if_pos hmany]
    exact ⟨_, rfl⟩

theorem asksIf_getByIdentifier (identifier : String) :
    AsksIf (f.getByIdentifier identifier) (Text.isBlank identifier = false ∧ f.IsSingle)
      ⟨.get, f.getRequest identifier⟩ f.fetched where
  asks h := f.asks_getByIdentifier (checkText_of_visible _ h.1) (f.checkSingleIndex_of_isSingle h.2)
  settles h := by
    by_cases hvisible : Text.isBlank identifier = false
    · obtain ⟨e, he⟩ := f.checkSingleIndex_of_not_isSingle fun hsingle => h ⟨hvisible, hsingle⟩
      have hrefused : (checkText "identifier" identifier).bind
          (fun _ => checkSingleIndex f.index f.docType) = .error e := by
        rw [checkText_of_visible _ hvisible]
        exact he
      exact ⟨_, f.settles_getByIdentifier hrefused⟩
    · refine ⟨_, f.settles_getByIdentifier (e := .validation (.argument "identifier" "must not be blank")) ?_⟩
      rw [checkText_of_blank _ hvisible]
      rfl

theorem asksIf_getByIdentifiers (identifiers : List String) :
    AsksIf (f.getByIdentifiers identifiers) (identifiers ≠ [] ∧ f.IsSingle)
      ⟨.mget, f.mgetRequest identifiers⟩ (fun reply => (reply.mapError .engine).bind f.listed) where
  asks h := f.asks_getByIdentifiers h.1 (f.checkSingleIndex_of_isSingle h.2)
  settles h := by
    have hrefused : identifiers = [] ∨ ∃ e, checkSingleIndex f.index f.docType = .error e := by
      by_cases hempty : identifiers = []
      · exact .inl hempty
      · exact .inr (f.checkSingleIndex_of_not_isSingle fun hsingle => h ⟨hempty, hsingle⟩)
    obtain ⟨e, hsettles⟩ := f.settles_getByIdentifiers hrefused
    exact ⟨_, hsettles⟩

/-! ### Searches -/

theorem asksIf_find (query : Json) :
    AsksIf (f.find query) (∃ fields, query = .object fields) ⟨.search, f.searchRequest query⟩
      (fun reply => (reply.mapError .engine).bind
        (f.searched (position ["from"] (f.searchRequest query)))) := by
  refine .of_check (fun h => ⟨_, checkObject_of_ne h⟩) ?_
  rintro ⟨fields, rfl⟩
  exact f.asks_find fields

theorem asksIf_findByStored (query : Json) :
    AsksIf (f.findByStored query) (∃ fields, query = .object fields)
      ⟨.searchTemplate, f.searchRequest query⟩
      (fun reply => (reply.mapError .engine).bind
        (f.searched (position ["body", "params", "from"] (f.searchRequest query)))) := by
  refine .of_check (fun h => ⟨_, checkObject_of_ne h⟩) ?_
  rintro ⟨fields, rfl⟩
  exact f.asks_findByStored fields

/-! ### Scrolls -/

/-- What a reply to the release of a scroll comes to. -/
def released : Reply → Except Error Unit
  | .ok _ => .ok ()
  | .error (.notFound _) => .ok ()
  | .error e => .error (.engine e)

theorem asksIf_scrollStart (query : Json) :
    AsksIf (f.scrollStart query) (∃ fields, query = .object fields) ⟨.search, f.scrollStartRequest query⟩
      (fun reply => (reply.mapError .engine).bind f.scrolled) := by
  refine .of_check (fun h => ⟨_, checkObject_of_ne h⟩) ?_
  rintro ⟨fields, rfl⟩
  exact f.asks_scrollStart fields

theorem asksIf_scrollNext (cursor : String) :
    AsksIf (f.scrollNext cursor) (Text.isBlank cursor = false) ⟨.scroll, f.scrollNextRequest cursor⟩
      (fun reply => (reply.mapError .engine).bind f.scrolled) := by
  refine .of_check (fun h => ⟨_, checkText_of_blank "cursor" h⟩) ?_
  intro hvisible
  rw [checkText_of_visible _ hvisible]
  exact (Action.settles_lift (.ok ())).asks (f.asks_noteSearch _ f.settles_scrollPage)

theorem asksIf_scrollEnd (cursor : String) :
    AsksIf (f.scrollEnd cursor) (Text.isBlank cursor = false) ⟨.clearScroll, scrollEndRequest cursor⟩
      released := by
  refine .of_check (fun h => ⟨_, checkText_of_blank "cursor" h⟩) ?_
  intro hvisible
  rw [checkText_of_visible _ hvisible]
  refine (Action.settles_lift (.ok ())).asks ((f.settles_noteSearch _).asks (Action.asks_connect_ask ?_))
  intro reply
  cases reply with
  | ok answer => exact Action.settles_pure ()
  | error e =>
    cases e with
    | notFound resource => exact Action.settles_debug _
    | _ => exact Action.settles_throw _

end Finder

/-! ### Services -/

namespace QueryService

variable (s : QueryService ι)

/-- The compiled form of a query: each kind has its compiler. -/
def native : Query → Except QueryError Json
  | .criteria q => s.criteria.compile (.criteria q)
  | .stored q => s.stored.compile (.stored q)
  | .custom q => CustomQuery.compile (.custom q)

/-- The compiled form of a query that opens a scroll: a stored one is refused. -/
def nativeScroll : Query → Except QueryError Json
  | .criteria q => s.native (.criteria q)
  | .stored q => Compiler.scroll.refuse (.stored q)
  | .custom q => s.native (.custom q)

/-- The search for a compiled form: by template if the query is stored. -/
def findNative : Query → Json → Action (Page ι)
  | .stored _ => s.finder.findByStored
  | .criteria _ | .custom _ => s.finder.find

variable (engine : Engine σ) (state : σ)

theorem calls_find (query : Query) :
    ((s.find query).execute engine state).calls =
      match s.native query with
      | .ok native => ((s.findNative query native).execute engine state).calls
      | .error _ => [] := by
  cases query with
  | criteria q =>
    rw [native]
    cases hcompiled : s.criteria.compile (.criteria q) with
    | ok native => exact (s.settles_compileCriteria hcompiled).calls_bind s.finder.find engine state
    | error e => exact (s.settles_find_criteria hcompiled).calls_eq_nil engine state
  | stored q =>
    have hcompile : Settles (compiled (s.stored.compile (.stored q))) (.ok _) := settles_compiled _
    exact hcompile.calls_bind s.finder.findByStored engine state
  | custom q =>
    have hcompile : Settles (compiled (CustomQuery.compile (.custom q))) (.ok q.query) := settles_compiled _
    exact hcompile.calls_bind s.finder.find engine state

theorem calls_scrollStart (query : Query) :
    ((s.scrollStart query).execute engine state).calls =
      match s.nativeScroll query with
      | .ok native => ((s.finder.scrollStart native).execute engine state).calls
      | .error _ => [] := by
  cases query with
  | criteria q =>
    rw [nativeScroll, native]
    cases hcompiled : s.criteria.compile (.criteria q) with
    | ok native => exact s.calls_scrollStart_criteria engine state hcompiled
    | error e => exact (s.settles_scrollStart_criteria hcompiled).calls_eq_nil engine state
  | stored q =>
    have hrefused : Settles (s.scrollStart (.stored q)) (.error (.query (.unsupportedQuery .scroll .stored))) :=
      settles_compiled (Compiler.scroll.refuse (.stored q))
    exact hrefused.calls_eq_nil engine state
  | custom q => exact s.calls_scrollStart_custom engine state q

end QueryService

end SearchStore
