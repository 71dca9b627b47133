import SearchStore.Proofs.Engine.Exchange
import SearchStore.Proofs.Http.Location

/-!
# Messages of operations

An operation that asks one call sends one message over HTTP. `Sends` says what this message is, whoever the client
and whatever the transport: its verb, where below the path of the node it goes, with the query string, and its body.
-/

namespace SearchStore.Http

variable {α : Type}

/-- The operation sends one message over HTTP, with a verb, to a target below the path of the node, and with a
JSON body. -/
def Sends (a : Action α) (verb : Verb) (target : String) (body : Json) : Prop :=
  ∀ (σ : Type) (config : ConnectorConfig) (c : Client) (carry : Transport σ) (line : Line σ), c.IsHttp config →
    (∀ message, (carry message line.transport).1 ≠ .refused) →
    ∃ base message, c.node.path = some base ∧
      (a.execute (engine config carry) line).state.arrived = line.arrived ++ [message] ∧
      message.verb = verb ∧ message.target = base ++ target ∧ message.body = body.render

namespace Client

variable {c : Client} {config : ConnectorConfig}

theorem IsHttp.connect {σ : Type} (h : c.IsHttp config) (carry : Transport σ) (line : Line σ) :
    (engine config carry).connect line = (.ok (), { line with connected := true }) := by
  unfold engine
  dsimp only
  split
  · rename_i hconnected
    rw [← hconnected]
  · rw [h.ofConfig]

theorem IsHttp.answer {σ : Type} (h : c.IsHttp config) (carry : Transport σ) (call : Call) (line : Line σ) :
    (engine config carry).answer call line = c.answer carry call line := by
  unfold engine
  dsimp only
  rw [h.ofConfig]

end Client

/-- An operation sends the request of the call that it asks, if the path is made of literal segments. -/
theorem sends_of_asks {a : Action α} {call : Call} {finish : Reply → Except Error α} (ha : a.Asks call finish)
    {request : Request} (hrequest : Request.ofCall call = .ok request) {first second : List Char}
    (hpath : request.path = String.ofList ('/' :: ['/'].intercalate [first, second]))
    (hquery : request.query = []) {body : Json} (hbody : request.body = .json body) (hfirst : first ≠ [])
    (hrelative : Node.IsRelative first) (hsecond : second ≠ []) (hliteral : ∀ s ∈ [first, second], Node.IsLiteral s) :
    Sends a request.verb (String.ofList (['/'].intercalate [first, second])) body := by
  intro σ config c carry line hclient hanswer
  obtain ⟨base, hhost⟩ := hclient.exists_isHost
  have hchars : ∀ s ∈ [first, second], ∀ c ∈ ['/', '?', '#'], c ∉ s := by
    intro s hs c hc
    have hall : ∀ c ∈ ['/', '?', '#'], c ∈ ['/', '\\', '?', '#'] := by simp
    exact (hliteral s hs).1 c (hall c hc)
  have hslashes : ('/' :: ['/'].intercalate [first, second]).dropWhile (· = '/') =
      ['/'].intercalate [first, second] := by
    obtain ⟨d, rest, rfl⟩ := List.exists_cons_of_ne_nil hfirst
    have hd : d ≠ '/' := by
      rintro rfl
      exact hchars _ List.mem_cons_self '/' (by simp) List.mem_cons_self
    rw [List.dropWhile_cons_of_pos (by simp), List.intercalate_cons_cons, List.append_assoc, List.cons_append]
    exact List.dropWhile_cons_of_neg (by simpa using hd)
  have hreaches : c.Reaches call (base ++ String.ofList (['/'].intercalate [first, second])) := by
    rw [hclient.reaches_iff hrequest, Client.destination, hpath, String.toList_ofList, hslashes]
    exact (hhost.follow_eq_place_iff hfirst hsecond hchars).mpr ⟨hrelative, hliteral⟩
  have hconnect := hclient.connect carry line
  have harrived := hreaches.arrived_message hrequest carry { line with connected := true } hanswer
  have hstate : (a.execute (engine config carry) line).state =
      (c.answer carry call { line with connected := true }).2 := by
    rw [ha.state_eq (by rw [hconnect]), hconnect, hclient.answer]
  refine ⟨base, _, hhost.path, (congrArg Line.arrived hstate).trans harrived, rfl, ?_, ?_⟩
  · rw [Client.message, hquery, Request.queryText, List.isEmpty_nil, if_pos rfl, String.append_empty]
    rfl
  · rw [Client.message, hbody, Body.render]

end SearchStore.Http
