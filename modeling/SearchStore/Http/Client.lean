import SearchStore.Connector
import SearchStore.Http.Node
import SearchStore.Http.Request
import SearchStore.Http.Status
import SearchStore.Json.Parser
import SearchStore.Text.Base64
import SearchStore.Text.Blank

/-!
# The engine behind HTTP

A client sends requests to the first node of a connector and reads the answers. The transport between them is
left open: it takes a message and says what becomes of it. A status of 404 means that what a request addresses is
missing; other statuses without success are handed on with the body.
-/

namespace SearchStore.Http

/-- The name under which the client reports errors. -/
def backend : String := "elasticsearch"

/-- A request as it is sent. -/
structure Message where
  verb : Verb
  /-- Scheme, host and socket. -/
  origin : String
  /-- Path and query string. -/
  target : String
  authorization : Option String
  body : String
deriving DecidableEq, Repr

/-- The whole URL of a message. -/
def Message.url (message : Message) : String := message.origin ++ message.target

/-- The type of all bodies. -/
def contentType : String := "application/json"

/-- An answer as it arrives; a body that breaks off is none. -/
structure Response where
  status : UInt16
  body : Option String
deriving DecidableEq, Repr

/-- What becomes of a message. -/
inductive Delivery where
  /-- Nobody takes the connection. -/
  | refused
  | answered (response : Response)
deriving DecidableEq, Repr

/-- A way to carry messages, with states of type `σ`. -/
abbrev Transport (σ : Type) := Message → σ → Delivery × σ

/-! ### Clients -/

/-- A client of one node. -/
structure Client where
  node : Node
  auth : Option Auth := none
deriving DecidableEq, Repr

/-- The text without spaces and tabs at the end. -/
def trimHeader (s : String) : String :=
  String.ofList ((s.toList.reverse.dropWhile fun c => c = ' ' || c = '\t').reverse)

/-- How credentials are sent. -/
def authorizationText : Auth → String
  | .basic username password => "Basic " ++ Text.base64 (username ++ ":" ++ password)
  | .bearer token => trimHeader ("Bearer " ++ token)

namespace Client

/-- The client of a configuration; only the first node counts. -/
def ofConfig (config : ConnectorConfig) : Except EngineError Client :=
  match Node.parse (config.nodes.head?.getD "http://localhost:9200") with
  | .ok node => .ok { node, auth := config.auth }
  | .error fault => .error (.connectionFailed backend ("Invalid URL: " ++ fault.message))

/-- Where a request goes: its path is a reference at the node, without the slashes in front. -/
def destination (c : Client) (request : Request) : Except UrlFault Destination :=
  c.node.follow (request.path.toList.dropWhile (· = '/'))

/-- The message of a request that goes to a destination. The user that the URL may name counts if the client has
no credentials. -/
def message (c : Client) (d : Destination) (request : Request) : Message :=
  let auth := c.auth <|> d.user.map fun (name, password) => .basic name password
  { verb := request.verb
    origin := d.origin
    target := d.path ++ Request.queryText request.query
    authorization := auth.map authorizationText
    body := request.body.render }

end Client

/-- Whether messages can be sent to a destination: only to hosts, and by HTTP. -/
def Destination.isHttp (d : Destination) : Bool :=
  d.authority.isSome && (d.scheme = "http" || d.scheme = "https")

/-! ### Answers -/

/-- The body of an answer: none is sent with some statuses and to some requests. -/
def Response.text? (response : Response) (verb : Verb) : Option String :=
  if verb = .head || response.status = 204 || response.status = 304 then some ""
  else response.body

/-- Reads a body: blank text is `null`. -/
def readBody (text : Option String) : Reply :=
  match text with
  | none => .error (.internal backend "error decoding response body")
  | some text =>
    if Text.isBlank text then .ok .null
    else
      match Json.parse text with
      | some value => .ok value
      | none => .error .unreadableBody

/-- Reads the answer to a request for data. -/
def readAnswer (request : Request) (response : Response) : Reply :=
  let text := response.text? request.verb
  if response.status = 404 then .error (.notFound request.path)
  else if isSuccess response.status then readBody text
  else .error (.status response.status (text.getD ""))

/-- Reads the answer to a ping. -/
def readPing (response : Response) : Reply :=
  if isSuccess response.status then .ok .null
  else .error (.connectionFailed backend ("Ping returned status " ++ statusText response.status))

/-- Reads the answer to the question whether an index is there. -/
def readExists (response : Response) : Reply :=
  if response.status = 404 then .ok (.bool false)
  else if isSuccess response.status then .ok (.bool true)
  else .error (.status response.status "")

/-- Reads the answer to a call. -/
def readReply (method : Method) (request : Request) (response : Response) : Reply :=
  match method with
  | .ping => readPing response
  | .indexExists => readExists response
  | _ => readAnswer request response

/-! ### The engine -/

/-- A line to a node: the state of the transport, and what went over it. -/
structure Line (σ : Type) where
  transport : σ
  /-- Whether a client was made. -/
  connected : Bool := false
  /-- The messages that arrived. -/
  arrived : List Message := []

namespace Client

variable {σ : Type}

/-- Sends a request and waits for the answer. -/
def exchange (c : Client) (carry : Transport σ) (request : Request) (line : Line σ) :
    Except EngineError Response × Line σ :=
  match c.destination request with
  | .error fault => (.error (.internal backend fault.message), line)
  | .ok d =>
    let message := c.message d request
    if d.isHttp then
      match carry message line.transport with
      | (.refused, transport) =>
        let text := "error sending request for url (" ++ message.url ++ ")"
        (.error (.internal backend text), { line with transport })
      | (.answered response, transport) =>
        (.ok response, { line with transport, arrived := line.arrived ++ [message] })
    else (.error (.internal backend ("builder error for url (" ++ message.url ++ ")")), line)

/-- Makes a call. -/
def answer (c : Client) (carry : Transport σ) (call : Call) (line : Line σ) : Reply × Line σ :=
  match Request.ofCall call with
  | .error e => (.error e, line)
  | .ok request =>
    let (result, line) := c.exchange carry request line
    (result.bind (readReply call.method request), line)

end Client

/-- The engine at the first node of a configuration. -/
def engine {σ : Type} (config : ConnectorConfig) (carry : Transport σ) : Engine (Line σ) where
  connect line :=
    if line.connected then (.ok (), line)
    else
      match Client.ofConfig config with
      | .ok _ => (.ok (), { line with connected := true })
      | .error e => (.error e, line)
  answer call line :=
    match Client.ofConfig config with
    | .ok client => client.answer carry call line
    | .error e => (.error e, line)

end SearchStore.Http
