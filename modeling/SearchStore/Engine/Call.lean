import SearchStore.Error

/-!
# Calls to the engine

A call names a method and carries its parameters as one JSON value: `index`, `type`, `id`, `name` and `body`
say what is addressed and what is sent, all other parameters tune the method.
-/

namespace SearchStore

/-- What the engine can be asked. -/
inductive Method where
  | get
  | mget
  | search
  | searchTemplate
  | scroll
  | clearScroll
  | index
  | delete
  | bulk
  | ping
  | indexExists
  | createIndex
  | deleteIndex
  | putMapping
  | getMapping
  | getSettings
  | getAlias
  | updateAliases
  | putTemplate
deriving DecidableEq, Repr

namespace Method

/-- The name of a method. -/
def name : Method → String
  | get => "get"
  | mget => "mget"
  | search => "search"
  | searchTemplate => "search_template"
  | scroll => "scroll"
  | clearScroll => "clear_scroll"
  | index => "index"
  | delete => "delete"
  | bulk => "bulk"
  | ping => "ping"
  | indexExists => "indices.exists"
  | createIndex => "indices.create"
  | deleteIndex => "indices.delete"
  | putMapping => "indices.put_mapping"
  | getMapping => "indices.get_mapping"
  | getSettings => "indices.get_settings"
  | getAlias => "indices.get_alias"
  | updateAliases => "indices.update_aliases"
  | putTemplate => "indices.put_template"

/-- All methods. -/
def all : List Method :=
  [get, mget, search, searchTemplate, scroll, clearScroll, index, delete, bulk, ping, indexExists,
    createIndex, deleteIndex, putMapping, getMapping, getSettings, getAlias, updateAliases,
    putTemplate]

/-- The method of a name. -/
def ofName? (name : String) : Option Method :=
  all.find? fun method => method.name == name

end Method

/-- One request to the engine. -/
structure Call where
  method : Method
  params : Json
deriving DecidableEq, Repr

/-- What the engine says to a call: the decoded body, or an error. -/
abbrev Reply := Except EngineError Json

end SearchStore
