import SearchStore.Engine.Script
import SearchStore.Http.Client
import SearchStore.Proofs.Finder.Operations
import SearchStore.Proofs.Storage.Operations

/-!
# What becomes of the errors of the engine

An operation that is answered with an error fails with it. The exceptions are documents and scrolls that are not
there: they are fetched as an empty page, read as none, and taken for deleted or released. `Finder.ReportsErrors`,
`Reader.ReportsErrors` and `Writer.ReportsErrors` say so of each operation and of each of its calls, and
`errors_reported` adds which answers over HTTP are such errors (`answer_of_status`).
-/

namespace SearchStore

open SearchStore.Action (Reports)

variable {ι σ : Type}

/-! ### Operations -/

/-- What the operations of a finder make of errors. -/
structure Finder.ReportsErrors (f : Finder ι) : Prop where
  getByIdentifier : ∀ identifier, (f.getByIdentifier identifier).Reports
    (Text.isBlank identifier = false ∧ f.IsSingle) (absentAs {})
  getByIdentifiers : ∀ identifiers, (f.getByIdentifiers identifiers).Reports
    (identifiers ≠ [] ∧ f.IsSingle) handedOn
  find : ∀ query, (f.find query).Reports (∃ fields, query = .object fields) handedOn
  findByStored : ∀ query, (f.findByStored query).Reports (∃ fields, query = .object fields) handedOn
  scrollStart : ∀ query, (f.scrollStart query).Reports (∃ fields, query = .object fields) handedOn
  scrollNext : ∀ cursor, (f.scrollNext cursor).Reports (Text.isBlank cursor = false) handedOn
  scrollEnd : ∀ cursor, (f.scrollEnd cursor).Reports (Text.isBlank cursor = false) (absentAs ())

/-- What the operations of a reader make of errors. -/
structure Reader.ReportsErrors (r : Reader ι) : Prop where
  read : ∀ identifier, (r.read identifier).Reports (Text.isBlank identifier = false) (absentAs none)
  readAll : ∀ settings, (r.readItems settings).Reports (settings.first = true ∨ r.offset ≠ 0) handedOn

/-- What the operations of a writer make of errors. -/
structure Writer.ReportsErrors (w : Writer) : Prop where
  write : ∀ d, (w.write d).Reports (d.isStorable = true) handedOn
  writeMany : ∀ documents, (w.writeMany documents).Reports
    (documents ≠ [] ∧ ∀ d ∈ documents, d.isStorable = true) handedOn
  delete : ∀ identifier, (w.delete identifier).Reports (Text.isBlank identifier = false) (absentAs ())

theorem Finder.fetched_error (f : Finder ι) (e : EngineError) : f.fetched (.error e) = absentAs {} e := by
  cases e <;> rfl

theorem Finder.released_error (e : EngineError) : released (.error e) = absentAs () e := by
  cases e <;> rfl

theorem Reader.readOf_error (r : Reader ι) (e : EngineError) : r.readOf (.error e) = absentAs none e := by
  cases e <;> rfl

theorem Finder.reportsErrors (f : Finder ι) : f.ReportsErrors where
  getByIdentifier identifier := (f.asksIf_getByIdentifier identifier).reports ⟨nofun, nofun⟩ f.fetched_error
  getByIdentifiers identifiers :=
    (f.asksIf_getByIdentifiers identifiers).reports ⟨nofun, nofun⟩ fun _ => rfl
  find query := (f.asksIf_find query).reports ⟨nofun, nofun⟩ fun _ => rfl
  findByStored query := (f.asksIf_findByStored query).reports ⟨nofun, nofun⟩ fun _ => rfl
  scrollStart query := (f.asksIf_scrollStart query).reports ⟨nofun, nofun⟩ fun _ => rfl
  scrollNext cursor := (f.asksIf_scrollNext cursor).reports ⟨nofun, nofun⟩ fun _ => rfl
  scrollEnd cursor := (f.asksIf_scrollEnd cursor).reports ⟨nofun, nofun⟩ released_error

theorem Reader.reportsErrors (r : Reader ι) : r.ReportsErrors where
  read identifier := (r.asksIf_read identifier).reports ⟨nofun, nofun⟩ r.readOf_error
  readAll settings := (r.asksIf_readItems settings).reports ⟨nofun, nofun⟩ fun _ => rfl

theorem Writer.reportsErrors (w : Writer) : w.ReportsErrors where
  write d := w.reports_write d
  writeMany documents := w.reports_writeMany documents
  delete identifier := w.reports_delete identifier

theorem isNotFound_engine_iff (e : EngineError) :
    (Error.engine e).isNotFound = true ↔ ∃ resource, e = .notFound resource := by
  cases e <;> simp [Error.isNotFound]

/-! ### Answers over HTTP -/

namespace Http

/-- What can be read of the body of an answer without success: the status 304 has none, and one that breaks off is
lost. -/
def Response.content (response : Response) : String :=
  if response.status = 304 then "" else response.body.getD ""

/-- Only a ping and the question for an index are requests whose answers have no body. -/
theorem verb_ne_head_of_readsData {call : Call} (hdata : call.method.ReadsData) {request : Request}
    (h : Request.ofCall call = .ok request) : request.verb ≠ .head := by
  obtain ⟨method, params⟩ := call
  obtain ⟨hping, hexists⟩ := hdata
  cases method with
  | ping => exact absurd rfl hping
  | indexExists => exact absurd rfl hexists
  | get | index | delete =>
    simp only [Request.ofCall] at h
    cases hpath : (Parts.ofParams params).pathOfDocument with
    | error e =>
      rw [hpath] at h
      cases h
    | ok path =>
      rw [hpath] at h
      cases h
      exact nofun
  | _ =>
    cases h
    exact nofun

theorem readReply_eq {method : Method} (hdata : method.ReadsData) (request : Request) (response : Response) :
    readReply method request response = readAnswer request response := by
  obtain ⟨hping, hexists⟩ := hdata
  cases method with
  | ping => exact absurd rfl hping
  | indexExists => exact absurd rfl hexists
  | _ => rfl

theorem readAnswer_of_failure {request : Request} (hverb : request.verb ≠ .head) {response : Response}
    (hmissing : response.status ≠ 404) (hfailed : isSuccess response.status = false) :
    readAnswer request response = .error (.status response.status response.content) := by
  have hcontent : (response.text? request.verb).getD "" = response.content := by
    have hnoContent : response.status ≠ 204 := by
      intro h
      rw [h] at hfailed
      cases hfailed
    unfold Response.text? Response.content
    by_cases hunmodified : response.status = 304
    · simp [hunmodified]
    · simp [hverb, hnoContent, hunmodified]
  unfold readAnswer
  rw [if_neg hmissing, hfailed, hcontent]
  rfl

variable {τ : Type}

theorem answer_engine_eq {config : ConnectorConfig} {client : Client} (hclient : Client.ofConfig config = .ok client)
    {carry : Transport τ} {call : Call} (hdata : call.method.ReadsData) {request : Request}
    (hrequest : Request.ofCall call = .ok request) {line : Line τ} {response : Response}
    (hresponse : (client.exchange carry request line).1 = .ok response) :
    ((engine config carry).answer call line).1 = readAnswer request response := by
  have hanswer : ((engine config carry).answer call line).1 =
      (client.exchange carry request line).1.bind (readReply call.method request) := by
    simp only [engine, hclient, Client.answer, hrequest]
  rw [hanswer, hresponse, ← readReply_eq hdata]
  rfl

/-- What an answer with a status says: 404 that what is addressed is not there, and any other status without success
is an error with the status and the body. -/
structure ReportsStatus (request : Request) (response : Response) (reply : Reply) : Prop where
  missing : response.status = 404 → reply = .error (.notFound request.path)
  failed : response.status ≠ 404 → isSuccess response.status = false →
    reply = .error (.status response.status response.content)

theorem answer_of_status {config : ConnectorConfig} {client : Client} (hclient : Client.ofConfig config = .ok client)
    {carry : Transport τ} {call : Call} (hdata : call.method.ReadsData) {request : Request}
    (hrequest : Request.ofCall call = .ok request) {line : Line τ} {response : Response}
    (hresponse : (client.exchange carry request line).1 = .ok response) :
    ReportsStatus request response ((engine config carry).answer call line).1 where
  missing h := by
    rw [answer_engine_eq hclient hdata hrequest hresponse, readAnswer, if_pos h]
  failed hmissing hfailed := by
    rw [answer_engine_eq hclient hdata hrequest hresponse]
    exact readAnswer_of_failure (verb_ne_head_of_readsData hdata hrequest) hmissing hfailed

end Http

open Http (Client Request Transport Line Response ReportsStatus)

/-- **Only what is not there is passed over, and only where an operation has a result for it.** Every operation of
finders, readers and writers that is answered with an error, at any of its calls, fails with just this error, except
that fetching, reading and deleting a document and releasing a scroll take a missing one for absent. The error can
be told apart as one about something missing if and only if it is. Over HTTP, such an error is what every answer
with the status 404 comes to, and any other status without success is handed on with the body. -/
theorem errors_reported :
    (∀ f : Finder ι, f.ReportsErrors) ∧ (∀ r : Reader ι, r.ReportsErrors) ∧ (∀ w : Writer, w.ReportsErrors) ∧
    (∀ e, (Error.engine e).isNotFound = true ↔ ∃ resource, e = .notFound resource) ∧
    ∀ (τ : Type) (config : ConnectorConfig) (client : Client) (carry : Transport τ) (line : Line τ) (call : Call)
      (request : Request) (response : Response),
      Client.ofConfig config = .ok client → call.method.ReadsData → Request.ofCall call = .ok request →
      (client.exchange carry request line).1 = .ok response →
        ReportsStatus request response ((Http.engine config carry).answer call line).1 := by
  refine ⟨Finder.reportsErrors, Reader.reportsErrors, Writer.reportsErrors, isNotFound_engine_iff, ?_⟩
  intro τ config client carry line call request response hclient hdata hrequest hresponse
  exact Http.answer_of_status hclient hdata hrequest hresponse

/-- A deletion whose second call finds nothing ends well, a search in an index that is not there fails, and an
answer with the status 404 is an error of this kind whatever its body is. -/
theorem errors_reported_missing :
    let w : Writer := { connector := {}, config := {}, target := ⟨⟨["library"]⟩, ⟨["book"]⟩⟩ }
    let f : Finder Json := { connector := {}, config := {}, mapper := .source }
    let gone : Script := { replies := [(.delete, .error (.notFound "/library/book/dune"))] }
    let closed : Script := { replies := [(.search, .error (.notFound "/_all/_search"))] }
    let config : ConnectorConfig := { nodes := ["http://[::1]"] }
    let call : Call := ⟨.delete, .object [("index", .string "library"), ("id", .string "dune")]⟩
    let carry : Transport Unit := fun _ state => (.answered ⟨404, some "no such index"⟩, state)
    ((w.delete "dune").execute Script.engine gone).value = .ok () ∧
    ((f.find .empty).execute Script.engine closed).value = .error (.engine (.notFound "/_all/_search")) ∧
    ((Http.engine config carry).answer call { transport := () }).1 = .error (.notFound "/library/dune") := by
  intro w f gone closed config call carry
  obtain ⟨hfinder, -, hwriter, -, hhttp⟩ := errors_reported (ι := Json)
  have hgone : (w.removal "dune", .error (.notFound "/library/book/dune")) ∈
      (w.delete "dune").replies Script.engine gone := .tail _ (.head _)
  have hclosed : (⟨.search, f.searchRequest .empty⟩, .error (.notFound "/_all/_search")) ∈
      (f.find .empty).replies Script.engine closed := .head _
  let client : Client :=
    { node := { scheme := "http", authority := some "[::1]", path := some "/", user := none } }
  let request : Request := { verb := .delete, path := "/library/dune" }
  have hclient : Client.ofConfig config = .ok client := by decide +kernel
  have hrequest : Request.ofCall call = .ok request := by decide +kernel
  have hresponse : (client.exchange carry request { transport := () }).1 = .ok ⟨404, some "no such index"⟩ := by
    decide +kernel
  have hreply := hhttp Unit config client carry { transport := () } call request _ hclient ⟨nofun, nofun⟩
    hrequest hresponse
  refine ⟨?_, ?_, ?_⟩
  · exact ((hwriter w).delete "dune").outcome Script Script.engine gone _ _ hgone
  · exact ((hfinder f).find .empty).outcome Script Script.engine closed _ _ hclosed
  · exact hreply.missing rfl

end SearchStore
