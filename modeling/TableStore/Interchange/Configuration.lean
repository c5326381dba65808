import TableStore.Configuration.Basic
import TableStore.Interchange.Names

/-!
# Interchange of configurations

A duration travels as a record of its seconds and the nanoseconds beyond them, and a
configuration as a record of its parts. Nanoseconds beyond a second are carried.
-/

namespace TableStore

namespace Duration

/-- A duration as JSON. -/
def toJson (duration : Duration) : Json :=
  .record [("secs", .ofNat duration.seconds), ("nanos", .ofNat duration.subsecond)]

/-- The duration that JSON gives: its whole seconds stay below 2⁶⁴. -/
def ofJson? (value : Json) : Option Duration := do
  match ← value.record? true ["secs", "nanos"] with
  | [some seconds, some nanoseconds] =>
      let seconds ← seconds.integer? 0 (UInt64.size - 1)
      let nanoseconds ← nanoseconds.integer? 0 (UInt32.size - 1)
      let duration : Duration := ⟨seconds.toNat * 1000000000 + nanoseconds.toNat⟩
      if duration.seconds < UInt64.size then some duration else none
  | _ => none

end Duration

namespace Configuration

/-- A text as JSON, null if there is none. -/
def optionalText : Option String → Json
  | none => .null
  | some text => .string text

/-- A configuration as JSON. -/
def toJson (configuration : Configuration) : Json :=
  .record
    [("host", .string configuration.host),
      ("port", match configuration.port? with
        | none => .null
        | some port => .ofNat port.toNat),
      ("database", optionalText configuration.database?),
      ("username", optionalText configuration.user?),
      ("context", .string configuration.environment.shortName),
      ("connect_timeout", configuration.connectLimit.toJson),
      ("statement_timeout", configuration.statementLimit.toJson),
      ("application_name", .string configuration.applicationName)]

/-- The configuration that JSON gives; the port, the database and the user may be absent. -/
def ofJson? (value : Json) : Option Configuration := do
  match ← value.record? false ["host", "port", "database", "username", "context",
      "connect_timeout", "statement_timeout", "application_name"] with
  | [some host, port, database, user, some environment, some connectLimit,
      some statementLimit, some applicationName] =>
      let port? ← Json.optional? (·.integer? 0 65535) port
      return {
        host := ← host.text?
        port? := port?.map fun port => UInt16.ofNat port.toNat
        database? := ← Json.optional? Json.text? database
        user? := ← Json.optional? Json.text? user
        environment := ← environment.named? Environment.all Environment.shortName
        connectLimit := ← Duration.ofJson? connectLimit
        statementLimit := ← Duration.ofJson? statementLimit
        applicationName := ← applicationName.text? }
  | _ => none

end Configuration

end TableStore
