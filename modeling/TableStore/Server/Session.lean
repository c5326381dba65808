import TableStore.Configuration.Reading
import TableStore.Server.Connection

/-!
# Sessions

A connection is opened to a URL with a sound configuration. The server greets within the
time limit for connecting, or not; after the greeting the settings of the session are sent,
and only then is there a connection. Whatever goes wrong on the way is an error of the
connection, whose target is the URL with its password hidden.

A connection is closed at its end, which fails if it was lost before.
-/

namespace TableStore

open Sql Server

/-- The error of a connection to a URL that was not opened. -/
def Error.connectionFailed (environment : Environment) (url : String) (cause : ConnectionFault) :
    Error :=
  .connection environment (Url.redact url) cause

/-- The settings of a session, in order. -/
def Configuration.settings (configuration : Configuration) : List Setting :=
  [.standardStrings, .statementLimit configuration.statementLimit.milliseconds,
    .applicationName configuration.applicationName, .utc]

namespace Server

/-- How a server receives a new connection. -/
inductive Greeting where
  | accepted
  | refused
  | silent
deriving DecidableEq, Repr

/-- Send settings one after another. -/
def applySettings : List Setting → Dialogue Unit
  | [] => .done (.ok ())
  | setting :: rest => .send (.setting setting) fun _ => applySettings rest

namespace Connection

/-- The errors of the statements that open a connection to a URL; none has a time
limit. -/
def openingFaults (environment : Environment) (url : String) : Faults :=
  ⟨fun _ => .connectionFailed environment url .refused, fun _ => none⟩

/-- Open a connection to a URL. -/
def openWith (configuration : Configuration) (url : String) (greeting : Greeting) :
    Dialogue Connection :=
  match configuration.error?, greeting with
  | some error, _ => .fail error
  | none, .refused => .fail (.connectionFailed configuration.environment url .refused)
  | none, .silent =>
      .fail (.connectionFailed configuration.environment url
        (.noAnswer configuration.connectLimit))
  | none, .accepted =>
      (applySettings configuration.settings).bind fun _ =>
        .done (.ok (.usable configuration.environment (some configuration.statementLimit)))

/-- Close a connection that may have been lost. -/
def close (connection : Connection) (isLost : Bool) : Except Error Unit :=
  if isLost then .error (.connection connection.environment "closing connection" .refused)
  else .ok ()

/-- The written form of a connection that can be used; the limit is the one that opening
it set. -/
def text (connection : Connection) : String :=
  let limit := match connection.limit with
    | none => "None"
    | some limit => "Some(" ++ limit.text ++ ")"
  "PgGeneralConnection \x7b context: " ++ connection.environment.longName ++
    ", statement_timeout: " ++ limit ++ ", .. \x7d"

end Connection

end Server

end TableStore
