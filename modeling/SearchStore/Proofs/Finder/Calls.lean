import SearchStore.Finder
import SearchStore.Proofs.Engine.Exchange

/-!
# Calls of finders

Every operation of a finder is an exchange: it refuses its arguments without the engine, or makes the one call that
its request is for and makes a page of the reply (`asks_getByIdentifier`, `asks_find` and so on). `FinderCall` is
any operation that addresses the target of the finder, so that what is true of all of them is said once.
-/

namespace SearchStore

open SearchStore.Action (Asks Settles)

variable {ι σ : Type}

namespace Finder

variable (f : Finder ι)

/-! ### Pages of answers -/

/-- The page of a search that starts at `offset`. -/
def searched (offset : UInt64) (answer : Json) : Except Error (Page ι) :=
  (f.mapper.answer answer).bind fun items => .ok { items, total := hitCount answer, offset }

/-- The page of a scroll. -/
def scrolled (answer : Json) : Except Error (Page ι) :=
  (f.searched 0 answer).bind fun page =>
    (cursorOf answer).bind fun cursor => .ok { page with cursor := some cursor }

/-- The page of all documents of an answer. -/
def listed (answer : Json) : Except Error (Page ι) :=
  (f.mapper.answer answer).bind fun items => .ok (Page.whole items)

/-- The page of a reply to the request for one document. -/
def fetched : Reply → Except Error (Page ι)
  | .ok answer => f.listed answer
  | .error (.notFound _) => .ok {}
  | .error e => .error (.engine e)

theorem settles_items (answer : Json) : Settles (f.items answer) (f.mapper.answer answer) := by
  unfold items
  split
  · exact (Action.settles_debug _).bind_ok (Action.settles_lift _)
  · exact Action.settles_lift _

theorem settles_page (offset : UInt64) (answer : Json) :
    Settles (f.page offset answer) (f.searched offset answer) := by
  unfold page searched
  exact (f.settles_items answer).bind fun items => Action.settles_pure _

theorem settles_scrollPage (answer : Json) : Settles (f.scrollPage answer) (f.scrolled answer) := by
  unfold scrollPage scrolled
  refine (f.settles_page 0 answer).bind fun page => ?_
  refine (Action.settles_lift (cursorOf answer)).bind fun cursor => ?_
  exact Action.settles_pure _

theorem settles_listed (answer : Json) :
    Settles (f.items answer >>= fun items => pure (Page.whole items)) (f.listed answer) := by
  unfold listed
  exact (f.settles_items answer).bind fun items => Action.settles_pure _

theorem settles_noteSearch (text : String) : Settles (f.noteSearch text) (.ok ()) := by
  unfold noteSearch
  split
  · exact Action.settles_debug text
  · exact Action.settles_pure ()

/-! ### Documents by identifier -/

theorem asks_getByIdentifier {identifier : String} (htext : checkText "identifier" identifier = .ok ())
    (hsingle : checkSingleIndex f.index f.docType = .ok ()) :
    Asks (f.getByIdentifier identifier) ⟨.get, f.getRequest identifier⟩ f.fetched := by
  unfold getByIdentifier
  rw [htext, hsingle]
  have hreply : ∀ reply : Reply, Settles
      (match reply with
        | .ok answer => f.items answer >>= fun items => pure (Page.whole items)
        | .error (.notFound resource) =>
          Action.debug ("Document '" ++ identifier ++ "' not found at " ++ resource) >>= fun _ => pure {}
        | .error e => throw (.engine e))
      (f.fetched reply) := by
    intro reply
    unfold fetched
    split
    · exact f.settles_listed _
    · exact (Action.settles_debug _).bind_ok (Action.settles_pure _)
    · exact Action.settles_throw _
  refine (Action.settles_lift (.ok ())).asks ((Action.settles_lift (.ok ())).asks ?_)
  split
  · exact (Action.settles_debug _).asks (Action.asks_connect_ask hreply)
  · exact Action.asks_connect_ask hreply

theorem settles_getByIdentifier {identifier : String} {e : Error}
    (h : (checkText "identifier" identifier).bind (fun _ => checkSingleIndex f.index f.docType) = .error e) :
    Settles (f.getByIdentifier identifier) (.error e) := by
  unfold getByIdentifier
  have htext := Action.settles_lift (checkText "identifier" identifier)
  have hsingle := Action.settles_lift (checkSingleIndex f.index f.docType)
  cases hchecked : checkText "identifier" identifier with
  | error refusal =>
    rw [hchecked] at h htext
    obtain rfl : refusal = e := Except.error.inj h
    exact htext.bind_error _
  | ok _ =>
    rw [hchecked] at h htext
    rw [show checkSingleIndex f.index f.docType = .error e from h] at hsingle ⊢
    exact htext.bind_ok (hsingle.bind_error _)

theorem asks_getByIdentifiers {identifiers : List String} (hne : identifiers ≠ [])
    (hsingle : checkSingleIndex f.index f.docType = .ok ()) :
    Asks (f.getByIdentifiers identifiers) ⟨.mget, f.mgetRequest identifiers⟩
      (fun reply => (reply.mapError .engine).bind f.listed) := by
  unfold getByIdentifiers
  rw [if_neg (by simpa using hne), hsingle]
  refine (Action.settles_lift (.ok ())).asks ?_
  split
  · exact (Action.settles_debug _).asks (Action.asks_connect_send f.settles_listed)
  · exact Action.asks_connect_send f.settles_listed

theorem settles_getByIdentifiers {identifiers : List String}
    (h : identifiers = [] ∨ ∃ e, checkSingleIndex f.index f.docType = .error e) :
    ∃ e, Settles (f.getByIdentifiers identifiers) (.error e) := by
  unfold getByIdentifiers
  by_cases hempty : identifiers = []
  · rw [if_pos (by simpa using hempty)]
    exact ⟨_, (Action.settles_lift (invalidArgument "identifiers" "must not be empty")).bind_error _⟩
  · obtain ⟨e, he⟩ := h.resolve_left hempty
    rw [if_neg (by simpa using hempty), he]
    exact ⟨e, (Action.settles_lift (.error e)).bind_error _⟩

/-! ### Searches -/

theorem asks_noteSearch (text : String) {method : Method} {request : Json} {handle : Json → Action (Page ι)}
    {finish : Json → Except Error (Page ι)} (h : ∀ answer, Settles (handle answer) (finish answer)) :
    Asks (f.noteSearch text >>= fun _ => Action.connect >>= fun _ => Action.send method request >>= handle)
      ⟨method, request⟩ (fun reply => (reply.mapError .engine).bind finish) :=
  (f.settles_noteSearch text).asks (Action.asks_connect_send h)

theorem asks_find (query : Fields) :
    let request := f.searchRequest (.object query)
    Asks (f.find (.object query)) ⟨.search, request⟩
      (fun reply => (reply.mapError .engine).bind (f.searched (position ["from"] request))) :=
  (Action.settles_lift (checkObject (.object query))).asks (f.asks_noteSearch _ (f.settles_page _))

theorem asks_findByStored (query : Fields) :
    let request := f.searchRequest (.object query)
    Asks (f.findByStored (.object query)) ⟨.searchTemplate, request⟩
      (fun reply => (reply.mapError .engine).bind
        (f.searched (position ["body", "params", "from"] request))) :=
  (Action.settles_lift (checkObject (.object query))).asks (f.asks_noteSearch _ (f.settles_page _))

theorem asks_scrollStart (query : Fields) :
    Asks (f.scrollStart (.object query)) ⟨.search, f.scrollStartRequest (.object query)⟩
      (fun reply => (reply.mapError .engine).bind f.scrolled) :=
  (Action.settles_lift (checkObject (.object query))).asks (f.asks_noteSearch _ f.settles_scrollPage)

end Finder

/-! ### All operations on the target -/

/-- An operation of a finder that addresses its target. -/
inductive FinderCall where
  | get (identifier : String)
  | mget (identifiers : List String)
  | search (query : Fields)
  | searchByTemplate (query : Fields)
  | openScroll (query : Fields)

namespace FinderCall

/-- The operation. -/
def perform (f : Finder ι) : FinderCall → Action (Page ι)
  | get identifier => f.getByIdentifier identifier
  | mget identifiers => f.getByIdentifiers identifiers
  | search query => f.find (.object query)
  | searchByTemplate query => f.findByStored (.object query)
  | openScroll query => f.scrollStart (.object query)

/-- The call that it makes. -/
def call (f : Finder ι) : FinderCall → Call
  | get identifier => ⟨.get, f.getRequest identifier⟩
  | mget identifiers => ⟨.mget, f.mgetRequest identifiers⟩
  | search query => ⟨.search, f.searchRequest (.object query)⟩
  | searchByTemplate query => ⟨.searchTemplate, f.searchRequest (.object query)⟩
  | openScroll query => ⟨.search, f.scrollStartRequest (.object query)⟩

theorem settles_or_asks (f : Finder ι) (c : FinderCall) :
    (∃ e, Settles (c.perform f) (.error e)) ∨ ∃ finish, Asks (c.perform f) (c.call f) finish := by
  cases c with
  | get identifier =>
    cases hrefused : (checkText "identifier" identifier).bind
        (fun _ => Finder.checkSingleIndex f.index f.docType) with
    | error e => exact .inl ⟨e, f.settles_getByIdentifier hrefused⟩
    | ok _ =>
      cases htext : checkText "identifier" identifier with
      | error e => simp [htext, Except.bind] at hrefused
      | ok _ =>
        rw [htext] at hrefused
        exact .inr ⟨_, f.asks_getByIdentifier htext hrefused⟩
  | mget identifiers =>
    by_cases hempty : identifiers = []
    · exact .inl (f.settles_getByIdentifiers (.inl hempty))
    · cases hsingle : Finder.checkSingleIndex f.index f.docType with
      | error e => exact .inl (f.settles_getByIdentifiers (.inr ⟨e, hsingle⟩))
      | ok _ => exact .inr ⟨_, f.asks_getByIdentifiers hempty hsingle⟩
  | search query => exact .inr ⟨_, f.asks_find query⟩
  | searchByTemplate query => exact .inr ⟨_, f.asks_findByStored query⟩
  | openScroll query => exact .inr ⟨_, f.asks_scrollStart query⟩

theorem eq_call_of_mem {f : Finder ι} {c : FinderCall} {engine : Engine σ} {state : σ} {other : Call}
    (h : other ∈ ((c.perform f).execute engine state).calls) : other = c.call f := by
  obtain ⟨e, hsettles⟩ | ⟨finish, hasks⟩ := c.settles_or_asks f
  · rw [hsettles.calls_eq_nil] at h
    cases h
  · exact hasks.eq_of_mem_calls h

end FinderCall

end SearchStore
