import TableStore.Decimal.Digits
import TableStore.Error.Basic

/-!
# Configurations

A configuration says where a connection goes, how long it may take and what it is called
there. It holds no password. Its written form shows the host, the port, the database and
the environment, and no user. An environment is given by its name; a name that is none is
refused with an error that shows it in small letters.

A configuration is sound when it names a host and an application, no port is zero, and
both time limits lie above zero and not above the greatest.
-/

namespace TableStore

open Decimal

/-- The environment with the given short or long name, in any case, or the error about
the name. -/
def Environment.ofName (name : String) : Except Error Environment :=
  match ofName? name with
  | some environment => .ok environment
  | none => .error (.configuration (.unknownEnvironment (foldCase name)))

/-- Where a connection goes and how long it may take. -/
structure Configuration where
  host : String := "localhost"
  port? : Option UInt16 := none
  database? : Option String := none
  user? : Option String := none
  environment : Environment := .development
  connectLimit : Duration := .ofSeconds 30
  statementLimit : Duration := .ofSeconds 30
  applicationName : String := "strata-0.1.0"
deriving DecidableEq

/-- What is wrong with a time limit. -/
def TimeLimit.fault? (limit : TimeLimit) (duration : Duration) : Option Misconfiguration :=
  if duration.nanoseconds = 0 then some (.limitZero limit)
  else if greatestLimit.nanoseconds < duration.nanoseconds then some (.limitTooLong limit)
  else none

/-- Whether a name on the server may hold a character. -/
def ServerName.isCharacter (c : Char) : Bool :=
  c.isAlphanum || c == '_' || c == '$'

/-- What is wrong with a name on the server, given in ASCII. -/
def ServerName.fault? (name : List Char) : Option ServerNameFault :=
  if greatestNameLength < name.length then some .tooLong
  else if !name.head?.any fun first => first.isAlpha || first == '_' then some .start
  else if !name.all ServerName.isCharacter then some .character
  else none

namespace Configuration

/-- The first thing that is wrong with a configuration. -/
def fault? (configuration : Configuration) : Option Misconfiguration :=
  if configuration.host.isEmpty then some .emptyHost
  else if configuration.port? = some 0 then some .portZero
  else
    (TimeLimit.connect.fault? configuration.connectLimit).or <|
    (TimeLimit.statement.fault? configuration.statementLimit).or <|
    if configuration.applicationName.isEmpty then some .emptyApplicationName else none

/-- The error of a configuration that is not sound. -/
def error? (configuration : Configuration) : Option Error :=
  configuration.fault?.map .configuration

/-- The written form of a configuration. -/
def text (configuration : Configuration) : String :=
  let port := match configuration.port? with
    | none => ""
    | some port => ":" ++ String.ofList (digits port.toNat)
  let database := match configuration.database? with
    | none => ""
    | some database => "/" ++ database
  "ConnectionConfig(" ++ configuration.host ++ port ++ database ++ ", " ++
    configuration.environment.shortName ++ ")"

end Configuration

end TableStore
