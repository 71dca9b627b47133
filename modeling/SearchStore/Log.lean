import SearchStore.Json.Basic

/-!
# Log events
-/

namespace SearchStore

/-- How much an event matters. -/
inductive Level where
  | debug
  | info
  | warn
deriving DecidableEq, Repr

/-- The name of a level. -/
def Level.name : Level → String
  | .debug => "DEBUG"
  | .info => "INFO"
  | .warn => "WARN"

/-- One entry of the log: a message with named values. -/
structure Event where
  level : Level
  message : String
  fields : Fields := []
deriving DecidableEq, Repr

end SearchStore
