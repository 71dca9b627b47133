import SearchStore.Engine.Access

/-!
# Prepared replies

A script is an engine that answers from a list of prepared replies: a call takes the first one for its method
that is left, and gets the usual answer of an idle engine if there is none. It takes every connection.
-/

namespace SearchStore

/-- The answer of an idle engine: nothing is found, and every change is acknowledged. -/
def Method.idleAnswer : Method → Json
  | .get => .object [("_id", .string ""), ("found", .bool true), ("_source", .empty)]
  | .mget => .object [("docs", .array [])]
  | .search | .searchTemplate | .scroll =>
    .object [("hits", .object [("total", .natural 0), ("hits", .array [])])]
  | .bulk => .object [("errors", .bool false), ("items", .array [])]
  | .getMapping | .getSettings | .getAlias => .empty
  | .indexExists => .bool false
  | .clearScroll | .index | .delete | .ping | .createIndex | .deleteIndex | .putMapping
  | .updateAliases | .putTemplate => .object [("acknowledged", .bool true)]

/-- Prepared replies that are left, and whether the connection is open. -/
structure Script where
  replies : List (Method × Reply) := []
  connected : Bool := false

namespace Script

/-- The first reply that is left for a method, and the others. -/
def take? (method : Method) : List (Method × Reply) → Option (Reply × List (Method × Reply))
  | [] => none
  | (prepared, reply) :: rest =>
    if prepared = method then some (reply, rest)
    else (take? method rest).map fun (found, left) => (found, (prepared, reply) :: left)

/-- The engine that answers from the script. -/
def engine : Engine Script where
  connect script := (.ok (), { script with connected := true })
  answer call script :=
    match take? call.method script.replies with
    | some (reply, left) => (reply, { script with replies := left })
    | none => (.ok call.method.idleAnswer, script)

/-- The script with the connection closed. -/
def disconnect (script : Script) : Script := { script with connected := false }

end Script

end SearchStore
