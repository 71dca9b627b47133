import Mathlib.Control.Monad.Basic
import SearchStore.Http.Client
import SearchStore.Proofs.Engine.Action
import SearchStore.Proofs.Http.Reference
import SearchStore.Proofs.Http.Request

/-!
# Where requests for documents go

A client follows the path of a request as a reference at its node. A call reaches a path if its message arrives
there (`Reaches`, `Reaches.arrived`).

`document_location` says when requests for one document reach the path of index, type and identifier, escaped:
exactly if all three are plain, and the index does not start with a scheme. The identifiers `.` and `..` lead to
the type and to the index, so that who deletes `..` deletes all documents.
-/

namespace SearchStore.Http

/-! ### Requests of a client -/

namespace Client

variable {c : Client} {call : Call} {path : String}

/-- The request of a call goes to a path at the node of a client. -/
def Reaches (c : Client) (call : Call) (path : String) : Prop :=
  ∃ request, Request.ofCall call = .ok request ∧ c.destination request = .ok (c.node.place path) ∧
    (c.node.place path).isHttp = true

theorem Reaches.arrived_message {σ : Type} (h : c.Reaches call path) {request : Request}
    (hrequest : Request.ofCall call = .ok request) (carry : Transport σ) (line : Line σ)
    (hanswer : ∀ message, (carry message line.transport).1 ≠ .refused) :
    (c.answer carry call line).2.arrived = line.arrived ++ [c.message (c.node.place path) request] := by
  obtain ⟨other, hother, hdestination, hhttp⟩ := h
  obtain rfl : request = other := Except.ok.inj (hrequest.symm.trans hother)
  have hcarry := hanswer (c.message (c.node.place path) request)
  rw [answer, hrequest]
  simp only [exchange, hdestination, hhttp, if_true]
  split
  · rename_i hrefused
    exact absurd (by rw [hrefused]) hcarry
  · rfl

theorem Reaches.arrived {σ : Type} (h : c.Reaches call path) (carry : Transport σ) (line : Line σ)
    (hanswer : ∀ message, (carry message line.transport).1 ≠ .refused) :
    ∃ message query, (c.answer carry call line).2.arrived = line.arrived ++ [message] ∧
      message.target = path ++ Request.queryText query := by
  obtain ⟨request, hrequest, -⟩ := id h
  exact ⟨_, request.query, h.arrived_message hrequest carry line hanswer, rfl⟩

/-- A client that connects by HTTP to the node of a configuration. -/
structure IsHttp (c : Client) (config : ConnectorConfig) : Prop where
  ofConfig : Client.ofConfig config = .ok c
  scheme : c.node.scheme ∈ ["http", "https"]

variable {config : ConnectorConfig}

theorem IsHttp.named (h : c.IsHttp config) : (Node.hostSchemes.lookup c.node.scheme).isSome = true := by
  have hall : ∀ scheme ∈ ["http", "https"], (Node.hostSchemes.lookup scheme).isSome = true := by decide
  exact hall _ h.scheme

/-- The node of a client that connects by HTTP has a host and a path. -/
theorem IsHttp.exists_isHost (h : c.IsHttp config) : ∃ base, c.node.IsHost base := by
  have hclient := h.ofConfig
  rw [Client.ofConfig] at hclient
  split at hclient
  · rename_i node hnode
    cases hclient
    exact Node.exists_isHost_of_parse hnode h.named
  · cases hclient

theorem IsHttp.reaches_iff (h : c.IsHttp config) {request : Request}
    (hrequest : Request.ofCall call = .ok request) :
    c.Reaches call path ↔ c.destination request = .ok (c.node.place path) := by
  refine ⟨fun ⟨other, hother, hdestination, _⟩ => ?_,
    fun hdestination => ⟨request, hrequest, hdestination, ?_⟩⟩
  · obtain rfl : request = other := Except.ok.inj (hrequest.symm.trans hother)
    exact hdestination
  · obtain ⟨base, hhost⟩ := h.exists_isHost
    have hscheme := h.scheme
    simp only [List.mem_cons, List.not_mem_nil, or_false] at hscheme
    rw [Destination.isHttp, Bool.and_eq_true, Bool.or_eq_true, decide_eq_true_iff, decide_eq_true_iff]
    exact ⟨hhost.authority, hscheme⟩

end Client

/-! ### Paths of documents -/

/-- Index, type and identifier as segments of a path. -/
def documentSegments (index docType identifier : String) : List (List Char) :=
  [(Text.segment index).toList, (Text.segment docType).toList, (Text.segment identifier).toList]

variable {index docType identifier : String}

theorem not_mem_of_mem_documentSegments :
    ∀ s ∈ documentSegments index docType identifier, ∀ c ∈ ['/', '?', '#'], c ∉ s := by
  have hall (s : String) : ∀ c ∈ ['/', '?', '#'], c ∉ (Text.segment s).toList := by
    intro c hc
    simp only [List.mem_cons, List.not_mem_nil, or_false] at hc
    obtain rfl | rfl | rfl := hc
    all_goals exact Text.not_mem_segment (by decide) (by decide) s
  intro s hs
  simp only [documentSegments, List.mem_cons, List.not_mem_nil, or_false] at hs
  obtain rfl | rfl | rfl := hs
  all_goals exact hall _

theorem ofList_documentSegments :
    String.ofList (['/'].intercalate (documentSegments index docType identifier)) =
      Text.segment index ++ "/" ++ Text.segment docType ++ "/" ++ Text.segment identifier := by
  simp [documentSegments, List.intercalate_cons_cons, String.ext_iff]

theorem forall_mem_documentSegments_isLiteral_iff :
    (∀ s ∈ documentSegments index docType identifier, Node.IsLiteral s) ↔
      Node.IsPlain index ∧ Node.IsPlain docType ∧ Node.IsPlain identifier := by
  simp [documentSegments, Node.isLiteral_segment_iff]

theorem dropWhile_documentSegments (hne : index ≠ "") :
    (['/'].intercalate (documentSegments index docType identifier)).dropWhile (· = '/') =
      ['/'].intercalate (documentSegments index docType identifier) := by
  have hsegment : (Text.segment index).toList ≠ [] := by
    simpa [Text.segment_eq_empty_iff] using hne
  obtain ⟨c, rest, hc⟩ := List.exists_cons_of_ne_nil hsegment
  have hslash : c ≠ '/' := by
    rintro rfl
    exact Text.slash_not_mem_segment index (hc ▸ List.mem_cons_self)
  rw [documentSegments, hc, List.intercalate_cons_cons, List.append_assoc, List.cons_append]
  exact List.dropWhile_cons_of_neg (by simpa using hslash)

/-- The request for a document goes to the path of its segments. -/
theorem exists_ofCall_of_namesDocument {fields : Fields} (h : Parts.NamesDocument fields index docType identifier)
    {method : Method} (hmethod : method ∈ [.get, .index, .delete]) :
    ∃ request, Request.ofCall ⟨method, .object fields⟩ = .ok request ∧
      request.path.toList.dropWhile (· = '/') =
        ['/'].intercalate (documentSegments index docType identifier) := by
  have hpath := h.pathOfDocument
  have hslash : ("/" ++ Text.segment index ++ ("/" ++ Text.segment docType) ++
      ("/" ++ Text.segment identifier)).toList =
      '/' :: ['/'].intercalate (documentSegments index docType identifier) := by
    simp [documentSegments, List.intercalate_cons_cons]
  simp only [List.mem_cons, List.not_mem_nil, or_false] at hmethod
  obtain rfl | rfl | rfl := hmethod
  all_goals
    refine ⟨_, by rw [Request.ofCall, Parts.ofParams, hpath]; rfl, ?_⟩
    rw [Request.ofParts, hslash, List.dropWhile_cons_of_pos (by simp), dropWhile_documentSegments h.index_ne]

end SearchStore.Http

namespace SearchStore

open Http

/-- **Where documents are reached.** Let a client connect by HTTP, and let parameters name a document. The escaped
identifier is literal exactly if the identifier is plain. A request for the document reaches the path of index,
type and identifier below that of the node exactly if all three are plain and the index starts a relative
reference. Behind such an index and a plain type, the identifier `.` leads to the type, and `..` to the index. -/
theorem document_location {config : ConnectorConfig} {c : Client} (hclient : c.IsHttp config) {fields : Fields}
    {index docType identifier : String} (hnames : Parts.NamesDocument fields index docType identifier)
    {method : Method} (hmethod : method ∈ [.get, .index, .delete]) :
    (Node.IsLiteral (Text.segment identifier).toList ↔ Node.IsPlain identifier) ∧
    ∃ base, c.node.path = some base ∧
      (c.Reaches ⟨method, .object fields⟩
          (base ++ (Text.segment index ++ "/" ++ Text.segment docType ++ "/" ++ Text.segment identifier)) ↔
        Node.IsRelative (Text.segment index).toList ∧
          Node.IsPlain index ∧ Node.IsPlain docType ∧ Node.IsPlain identifier) ∧
      (Node.IsRelative (Text.segment index).toList → Node.IsPlain index → Node.IsPlain docType →
        (identifier = "." →
          c.Reaches ⟨method, .object fields⟩
            (base ++ (Text.segment index ++ "/" ++ Text.segment docType ++ "/"))) ∧
        (identifier = ".." →
          c.Reaches ⟨method, .object fields⟩ (base ++ (Text.segment index ++ "/")))) := by
  obtain ⟨base, hhost⟩ := hclient.exists_isHost
  obtain ⟨request, hrequest, hcs⟩ := exists_ofCall_of_namesDocument hnames hmethod
  have hindex : (Text.segment index).toList ≠ [] := by
    simpa [Text.segment_eq_empty_iff] using hnames.index_ne
  have hdocType : (Text.segment docType).toList ≠ [] := by
    simpa [Text.segment_eq_empty_iff] using hnames.docType_ne
  simp only [hclient.reaches_iff hrequest, Client.destination, hcs]
  refine ⟨Node.isLiteral_segment_iff, base, hhost.path, ?_, fun hrelative hi ht => ?_⟩
  · rw [← ofList_documentSegments, ← forall_mem_documentSegments_isLiteral_iff]
    exact hhost.follow_eq_place_iff hindex hdocType not_mem_of_mem_documentSegments
  · rw [documentSegments, hhost.follow_of_isRelative (hrelative.intercalate hindex _), Except.ok.injEq,
      Except.ok.injEq, Node.place_inj, Node.place_inj]
    have hliteral : ∀ s ∈ [(Text.segment index).toList] ++ [(Text.segment docType).toList], Node.IsLiteral s := by
      simp [Node.isLiteral_segment_iff, hi, ht]
    refine ⟨?_, ?_⟩
    · rintro rfl
      refine (hhost.isBase.below_dot hliteral).trans (congrArg (base ++ ·) ?_)
      simp [List.intercalate_cons_cons, String.ext_iff]
    · rintro rfl
      refine (hhost.isBase.below_doubleDot hliteral).trans (congrArg (base ++ ·) ?_)
      simp [List.intercalate_cons_cons]

/-- An identifier with dots, slashes and blanks that is plain. -/
theorem document_location_escaped :
    let config : ConnectorConfig := { nodes := ["http://[::1]/es"] }
    let c : Client :=
      { node :=
          { scheme := "http", authority := some "[::1]", path := some "/es/", user := none } }
    let fields : Fields :=
      [("index", Json.strings ["books"]), ("type", .string "book"), ("id", .string "../50% #1")]
    c.IsHttp config ∧ Parts.NamesDocument fields "books" "book" "../50% #1" ∧
      c.Reaches ⟨.delete, .object fields⟩ "/es/books/book/..%2F50%25%20%231" := by
  intro config c fields
  have hclient : c.IsHttp config := { ofConfig := by decide +kernel, scheme := by decide }
  have hnames : Parts.NamesDocument fields "books" "book" "../50% #1" :=
    { textOf_index := by decide +kernel
      textOf_type := by decide +kernel
      textOf_id := by decide +kernel
      index_ne := by decide
      docType_ne := by decide
      identifier_ne := by decide }
  obtain ⟨-, base, hbase, hreaches, -⟩ :=
    document_location hclient hnames (show Method.delete ∈ [.get, .index, .delete] by decide)
  obtain rfl : "/es/" = base := Option.some.inj hbase
  exact ⟨hclient, hnames, hreaches.mpr (by decide +kernel)⟩

/-- Who deletes `..` looks up and deletes the index, and who deletes `a\\b` another path below the type. -/
theorem delete_reaches_index :
    let writer : Writer := { connector := {}, config := {}, target := ⟨⟨["books"]⟩, ⟨["book"]⟩⟩ }
    let carry : Transport Unit := fun _ _ => (.answered ⟨200, some "\x7b\x7d"⟩, ())
    let run (identifier : String) :=
      (writer.delete identifier).execute (engine { nodes := ["http://[::1]"] } carry) { transport := () }
    let arrived (identifier : String) :=
      (run identifier).state.arrived.map fun message => (message.verb, message.target)
    arrived ".." = [(.get, "/books/?refresh=false"), (.delete, "/books/")] ∧
      arrived "a\\b" = [(.get, "/books/book/a/b?refresh=false"), (.delete, "/books/book/a/b")] := by
  decide +kernel

end SearchStore
