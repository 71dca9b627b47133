import SearchStore.Engine.Call
import SearchStore.Json.Printer
import SearchStore.Text.List
import SearchStore.Text.Percent

/-!
# HTTP requests

A call becomes a request with a verb, a path, a query string and a body. Of its parameters, `index`, `type`,
`id` and `name` go into the path, `body` is sent, and the others are the query string, in order. Lists are
joined by commas, and parameters that are `null` are left out.
-/

namespace SearchStore.Http

/-- The verb of a request. -/
inductive Verb where
  | get
  | post
  | put
  | delete
  | head
deriving DecidableEq, Repr

/-- The name of a verb. -/
def Verb.name : Verb → String
  | get => "GET"
  | post => "POST"
  | put => "PUT"
  | delete => "DELETE"
  | head => "HEAD"

/-! ### Parameters -/

mutual
/-- A parameter as text, none for `null`. -/
def parameterText : Json → Option String
  | .null => none
  | .string s => some s
  | .array items => some (Text.join "," (parameterTexts items))
  | .bool b => some (Json.bool b).render
  | .number n => some n.render
  | .object fields => some (Json.object fields).render

/-- The items of a list parameter as texts. -/
def parameterTexts : List Json → List String
  | [] => []
  | item :: rest => (parameterText item).toList ++ parameterTexts rest
end

/-- Parameters, taken apart. -/
structure Parts where
  /-- What goes into the path. -/
  target : Fields := []
  /-- The query string. -/
  query : List (String × String) := []
  body : Option Json := none
deriving DecidableEq, Repr

namespace Parts

/-- The parameters that go into the path. -/
def pathKeys : List String := ["index", "type", "id", "name"]

/-- One more parameter in front. -/
def add (key : String) (value : Json) (parts : Parts) : Parts :=
  if key = "body" then { parts with body := some value }
  else if pathKeys.contains key then { parts with target := (key, value) :: parts.target }
  else
    match parameterText value with
    | some text => { parts with query := (key, text) :: parts.query }
    | none => parts

/-- The parts of an object's entries. -/
def ofFields : Fields → Parts
  | [] => {}
  | (key, value) :: rest => (ofFields rest).add key value

/-- The parts of parameters; what is no object has none. -/
def ofParams (params : Json) : Parts :=
  match params with
  | .object fields => ofFields fields
  | _ => {}

/-- A parameter as an escaped segment of the path, none if it is empty. -/
def segment (p : Parts) (key : String) : Option String :=
  (((Assoc.get? key p.target).bind parameterText).filter fun text => text ≠ "").map Text.segment

/-- A parameter as a segment with its slash, nothing if it is empty. -/
def step (p : Parts) (key : String) : String :=
  match p.segment key with
  | some text => "/" ++ text
  | none => ""

/-- The path of index and type with `suffix` behind them. -/
def path (p : Parts) (suffix : String) : String :=
  let path := p.step "index" ++ p.step "type" ++ suffix
  if path = "" then "/" else path

/-- The path of a document. -/
def pathOfDocument (p : Parts) : Except EngineError String :=
  match p.segment "id" with
  | some id => .ok (p.path ("/" ++ id))
  | none => .error (.internal "elasticsearch" "document request without id")

/-- The path of a mapping, in which the type stands last. -/
def mappingPath (p : Parts) : String :=
  "/" ++ (p.segment "index").getD "" ++ "/_mapping" ++ p.step "type"

end Parts

/-! ### Requests -/

/-- The body of a request. -/
inductive Body where
  | none
  | json (value : Json)
  /-- Values on lines of their own. -/
  | lines (values : List Json)
deriving DecidableEq, Repr

/-- The text of a body. -/
def Body.render : Body → String
  | none => ""
  | json value => value.render
  | lines values => values.foldr (fun value text => value.render ++ "\n" ++ text) ""

/-- A request below the path of a node. -/
structure Request where
  verb : Verb
  path : String
  query : List (String × String) := []
  body : Body := .none
deriving DecidableEq, Repr

namespace Request

/-- The request of parts for a path. -/
def ofParts (verb : Verb) (path : String) (parts : Parts) : Request :=
  { verb, path
    query := parts.query
    body := match parts.body with
      | some value => .json value
      | none => .none }

/-- The path of all requests about open scrolls. -/
def scrollPath : String := "/_search/scroll"

/-- The parts of a scroll request: without a body, the query becomes the body. -/
def scrollParts (parts : Parts) : Parts :=
  match parts.body with
  | some _ => parts
  | none => { body := some (.object (parts.query.map fun (key, text) => (key, .string text))) }

/-- The parts of a request that releases scrolls: without a body, the identifiers in the query become the
body. -/
def clearScrollParts (parts : Parts) : Parts :=
  match parts.body with
  | some _ => parts
  | none =>
    let named := parts.query.filter fun (key, _) => key = "scroll_id"
    let ids := named.flatMap fun (_, text) => Text.split ',' text
    { body := some (.object [("scroll_id", Json.strings ids)]) }

/-- The lines of a bulk request; a body that is no array has none. -/
def bulkLines (parts : Parts) : List Json :=
  (parts.body.bind Json.asArray?).getD []

/-- The request for a sign of life. -/
def ping : Request := { verb := .head, path := "/" }

/-- The request of a call. -/
def ofCall (call : Call) : Except EngineError Request :=
  let parts := Parts.ofParams call.params
  match call.method with
  | .get => do .ok (ofParts .get (← parts.pathOfDocument) parts)
  | .mget => .ok (ofParts .post (parts.path "/_mget") parts)
  | .search => .ok (ofParts .post (parts.path "/_search") parts)
  | .searchTemplate => .ok (ofParts .post (parts.path "/_search/template") parts)
  | .scroll => .ok (ofParts .post scrollPath (scrollParts parts))
  | .clearScroll => .ok (ofParts .delete scrollPath (clearScrollParts parts))
  | .index => do .ok (ofParts .put (← parts.pathOfDocument) parts)
  | .delete => do .ok (ofParts .delete (← parts.pathOfDocument) parts)
  | .bulk =>
    .ok
      { verb := .post
        path := parts.path "/_bulk"
        query := parts.query
        body := .lines (bulkLines parts) }
  | .ping => .ok ping
  | .indexExists => .ok { verb := .head, path := parts.path "", query := parts.query }
  | .createIndex => .ok (ofParts .put (parts.path "") parts)
  | .deleteIndex => .ok (ofParts .delete (parts.path "") parts)
  | .putMapping => .ok (ofParts .put parts.mappingPath parts)
  | .getMapping => .ok (ofParts .get (parts.path "/_mapping") parts)
  | .getSettings => .ok (ofParts .get (parts.path "/_settings") parts)
  | .getAlias => .ok (ofParts .get (parts.step "index" ++ "/_alias" ++ parts.step "name") parts)
  | .updateAliases => .ok (ofParts .post "/_aliases" parts)
  | .putTemplate =>
    .ok (ofParts .put ("/_template/" ++ (parts.segment "name").getD "") parts)

/-- The query string with its question mark, nothing if there are no parameters. -/
def queryText (query : List (String × String)) : String :=
  if query.isEmpty then ""
  else
    "?" ++ Text.join "&"
      (query.map fun (key, text) => Text.formText key ++ "=" ++ Text.formText text)

end Request

end SearchStore.Http
