import SearchStore.Storage.Target

/-!
# Writing documents

A writer puts documents under their identifiers, one by one or many in one request, and deletes them. A
deletion looks for the document first, because deleting from an index that is not there would create it.

A bulk request succeeds as a whole even if single items fail: `checkBulk` finds the first one that did.
-/

namespace SearchStore

/-- An entity that can be stored: its identifier, and its body if it has one. -/
structure Document where
  identifier : String
  body : Except Error Json

/-- A writer of documents. -/
structure Writer where
  connector : Connector
  config : StorageConfig
  target : Target
deriving DecidableEq, Repr

namespace Writer

/-- The writer of a valid configuration. -/
def create (connector : Connector) (config : StorageConfig) : Except Error Writer := do
  let target ← Target.ofConfig config connector
  .ok { connector, config, target }

/-! ### Requests -/

/-- The request that stores one document. -/
def indexRequest (w : Writer) (identifier : String) (body : Json) : Json :=
  Json.layers
    [w.config.parameters.layer "index",
      .object (w.target.address identifier ++ [("body", body)])]

/-- The line of a bulk request that says where the next document goes. -/
def bulkHeader (w : Writer) (identifier : String) : Json :=
  .object
    [("index",
      .object
        [("_index", .string w.target.index.render), ("_type", .string w.target.docType.render),
          ("_id", .string identifier)])]

/-- The request that stores many documents, given as a header and a body for each. -/
def bulkRequest (w : Writer) (lines : List Json) : Json :=
  Json.layers [w.config.parameters.layer "bulk", .object [("body", .array lines)]]

/-- The lines of a bulk request. -/
def bulkLines (w : Writer) : List Document → Except Error (List Json)
  | [] => .ok []
  | document :: rest => do
    let body ← document.body
    let lines ← w.bulkLines rest
    .ok (w.bulkHeader document.identifier :: body :: lines)

/-- The request that looks for a document before it is deleted. -/
def lookupRequest (w : Writer) (identifier : String) : Json :=
  Json.layers
    [w.config.parameters.layer "get", .object (w.target.address identifier),
      .object [("refresh", .bool false)]]

/-- The request that deletes a document. -/
def deleteRequest (w : Writer) (identifier : String) : Json :=
  Json.layers
    [w.config.parameters.layer "delete", .object (w.target.address identifier)]

/-! ### Answers -/

/-- The first action of a bulk answer that failed. -/
def failedAction? (answer : Json) : Option Json :=
  let items := ((answer.get? "items").bind Json.asArray?).getD []
  (items.filterMap (Json.get? "index")).find? fun action => (action.get? "error").isSome

/-- The status of a failed action, in 16 bits. -/
def actionStatus (action : Json) : UInt16 :=
  (((action.get? "status").bind Json.asNatural?).getD 500).toUInt16

/-- Fails if a bulk answer says that some item failed. -/
def checkBulk (answer : Json) : Except Error Unit :=
  if answer.get? "errors" = some (.bool true) then
    match failedAction? answer with
    | some action =>
      let cause := ((action.get? "error").getD .null).render
      .error (.engine (.status (actionStatus action) cause))
    | none => .error (.engine (.status 500 answer.render))
  else .ok ()

/-! ### Operations -/

/-- Stores one document. -/
def write (w : Writer) (document : Document) : Action Unit := do
  checkText "identifier" document.identifier
  let body ← document.body
  Action.connect
  let _ ← Action.send .index (w.indexRequest document.identifier body)
  Action.debug
    ("Indexed document '" ++ document.identifier ++ "' into " ++ w.target.render)

/-- Stores documents in one request, or none of them if an identifier is blank or a body is missing. -/
def writeBatch (w : Writer) (documents : List Document) : Action Unit := do
  documents.forM fun document => checkText "identifier" document.identifier
  let lines ← w.bulkLines documents
  Action.connect
  let answer ← Action.send .bulk (w.bulkRequest lines)
  checkBulk answer
  Action.debug
    ("Bulk indexed " ++ toString documents.length ++ " documents into " ++ w.target.render)

/-- Stores documents in order. -/
def writeMany (w : Writer) : List Document → Action Unit
  | [] => pure ()
  | [document] => w.write document
  | documents => w.writeBatch documents

/-- Deletes the document with an identifier; one that is not there is left alone, and so is a blank
identifier. -/
def delete (w : Writer) (identifier : String) : Action Unit := do
  if Text.isBlank identifier then
    Action.warn "Ignoring delete with blank identifier"
  else
    Action.connect
    match ← Action.ask .get (w.lookupRequest identifier) with
    | .error (.notFound resource) =>
      Action.debug ("Skipping delete of '" ++ identifier ++ "', " ++ resource ++ " not found")
    | .error e => throw (.engine e)
    | .ok _ =>
      match ← Action.ask .delete (w.deleteRequest identifier) with
      | .ok _ => Action.debug ("Deleted document '" ++ identifier ++ "'")
      | .error (.notFound _) =>
        Action.debug ("Document '" ++ identifier ++ "' already deleted")
      | .error e => throw (.engine e)

end Writer

end SearchStore
