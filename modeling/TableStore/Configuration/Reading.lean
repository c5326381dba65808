import TableStore.Configuration.Basic
import TableStore.Url.Reading

/-!
# Reading configurations from URLs

A URL gives the host, the port, the database as its path, the user, and in its query
the time limits and the name of the application; other parameters are left alone, and
of two parameters of one name the last counts, though each is checked. Faults are found in
this order: the URL, its scheme, its host, the database, the user, the parameters one
after another, and at last the configuration as a whole.
-/

namespace TableStore

open Decimal

/-- The port that a URL without a port stands for. -/
def Configuration.usualPort : UInt16 := 5432

/-- The number of a text of digits, perhaps after a plus sign, below 2⁶⁴. -/
def TimeLimit.number? (text : List Char) : Option Nat :=
  let digits := match text with
    | '+' :: rest => rest
    | _ => text
  (readNat? digits).filter (· < UInt64.size)

/-- The duration of a number in the unit of a time limit. -/
def TimeLimit.duration : TimeLimit → Nat → Duration
  | .connect, n => .ofSeconds n
  | .statement, n => .ofMilliseconds n

/-- The duration that a URL gives as a time limit. -/
def TimeLimit.ofText (limit : TimeLimit) (text : String) :
    Except Misconfiguration Duration :=
  match TimeLimit.number? text.toList with
  | none => .error (.limitNotNumber limit)
  | some n =>
      match limit.fault? (limit.duration n) with
      | some fault => .error fault
      | none => .ok (limit.duration n)

/-- A name on the server that a URL gives; an empty text gives none. -/
def ServerName.ofText (part : ServerName) (text : List Char) :
    Except Misconfiguration (Option String) :=
  if text.isEmpty then .ok none
  else
    match ServerName.fault? text with
    | some fault => .error (.serverName part fault)
    | none => .ok (some (String.ofList text))

namespace Configuration

/-- A configuration changed by a parameter of a URL. -/
def withParameter (configuration : Configuration) (parameter : String × String) :
    Except Misconfiguration Configuration :=
  match parameter with
  | ("connect_timeout", value) => do
      return { configuration with connectLimit := ← TimeLimit.connect.ofText value }
  | ("statement_timeout", value) => do
      return { configuration with statementLimit := ← TimeLimit.statement.ofText value }
  | ("application_name", value) => .ok { configuration with applicationName := value }
  | _ => .ok configuration

/-- The configuration that a parsed URL gives. -/
def ofParsed (url : Url) (environment : Environment) :
    Except Misconfiguration Configuration := do
  if url.scheme ≠ "postgres".toList ∧ url.scheme ≠ "postgresql".toList then throw .scheme
  let some host := url.host? | throw .noHost
  let database? ← ServerName.database.ofText (url.path.text.dropWhile (· == '/'))
  let user? ← ServerName.user.ofText url.user
  let configuration : Configuration :=
    { host := String.ofList host.text
      port? := some (url.port?.getD usualPort)
      database?
      user?
      environment }
  let configuration ← url.queryPairs.foldlM withParameter configuration
  match configuration.fault? with
  | some fault => throw fault
  | none => return configuration

/-- The configuration that a URL gives. -/
def ofUrl (url : String) (environment : Environment) : Except Error Configuration :=
  (((Url.ofText url).mapError .url).bind (ofParsed · environment)).mapError .configuration

end Configuration

end TableStore
