import SearchStore.Config.Connector
import SearchStore.Engine.Access

/-!
# Connectors

A connector is a named configuration of the way to the engine. Its status tells whether the engine answers,
unless the configuration says what to report.
-/

namespace SearchStore

/-- A named way to the engine. -/
structure Connector where
  name : String := "default"
  config : ConnectorConfig := {}
deriving DecidableEq, Repr

/-- A report on the health of a connector. -/
structure ConnectorStatus where
  connector : String
  state : ConnectorState
  details : Fields := []
deriving DecidableEq, Repr

namespace ConnectorStatus

/-- Whether the engine is known to answer. -/
def isWorking (s : ConnectorStatus) : Bool := s.state == .working

/-- The status in a line. -/
def render (s : ConnectorStatus) : String := s.connector ++ ": " ++ s.state.name

/-- The status as a report. -/
def toJson (s : ConnectorStatus) : Json :=
  .object
    [("name", .string s.connector), ("state", .string s.state.name),
      ("is_working", .bool s.isWorking), ("details", .object s.details),
      ("display", .string s.render)]

end ConnectorStatus

namespace Connector

/-- Asks the engine for a sign of life. -/
def ping : Action Unit := do
  Action.connect
  let _ ← Action.send .ping .null

/-- The health of the connector. -/
def status (c : Connector) : Access ConnectorStatus := do
  match c.config.fakeStatus with
  | some state => pure { connector := c.name, state }
  | none =>
    match ← ping.run with
    | .ok () =>
      pure
        { connector := c.name
          state := .working
          details := [("message", .string "Pinging elasticsearch succeeded.")] }
    | .error e =>
      let text := Json.string e.message
      .report
        { level := .warn
          message := "Connector status check failed"
          fields := [("connector", .string c.name), ("error", text)] }
        (.done { connector := c.name, state := .failing, details := [("error", text)] })

end Connector

end SearchStore
