import TableStore.Criterion.Comparison
import TableStore.Duration
import TableStore.Environment
import TableStore.Logging.Filter
import TableStore.Text.Listing
import TableStore.Url.Host
import TableStore.Value.Storage

/-!
# Causes of errors

Every error is a cause with the names and numbers that it is about. Causes inside
one kind of error have types of their own: what is wrong with a declaration or a
configuration, how a value breaks a constraint, why comparands do not suit a match, and
why a stored value cannot be read.
-/

namespace TableStore

/-- The parts of a declaration that carry a name. -/
inductive NameKind where
  | tablespace
  | schema
  | table
  | field
deriving DecidableEq, Repr

/-- The parts of a connection that follow the rules for names on the server. -/
inductive ServerName where
  | database
  | user
deriving DecidableEq, Repr

/-- What is wrong with a name on the server. -/
inductive ServerNameFault where
  | tooLong
  | start
  | character
deriving DecidableEq, Repr

/-- The time limits of a connection. -/
inductive TimeLimit where
  | connect
  | statement
deriving DecidableEq, Repr

/-- What is wrong with a declaration, a configuration or a combination of arguments. -/
inductive Misconfiguration where
  | invalidName (kind : NameKind) (name : String)
  | reservedSuffix (schema suffix : String)
  | noFields (table : String)
  | constraintOfOtherType (constraint : String) (applies : ValueType) (field : String)
      (type : ValueType)
  | constraintTwice (field constraint : String)
  | fieldTwice (table field : String)
  | invertedBounds (constraint least greatest : String)
  | boundsNotFinite (constraint : String)
  | nothingAllowed (constraint : String)
  | tooManyValues (table : String) (values fields : Nat)
  | emptyUpdate (table : String)
  | assignedTwice (field : String)
  | updateElsewhere (values criteria : String)
  | recordElsewhere (record table : String)
  | tableTwice (table : String)
  | termNumber (term : Int)
  | termUnregistered (table : String) (term : Int)
  | unknownEnvironment (name : String)
  | url (fault : Url.Fault)
  | scheme
  | noHost
  | serverName (part : ServerName) (fault : ServerNameFault)
  | limitNotNumber (limit : TimeLimit)
  | limitZero (limit : TimeLimit)
  | limitTooLong (limit : TimeLimit)
  | emptyHost
  | portZero
  | emptyApplicationName
  | logDirectives (directives : String) (fault : Logging.Fault)
  | loggingTwice
  | stated (message : String)
deriving DecidableEq

/-- How a value breaks a constraint. -/
inductive Violation where
  | outside (value least greatest : String)
  | length (characters least greatest : Nat)
  | notANumber
  | infinite (negative : Bool)
  | notListed (text : String) (allowed : List String)
  | otherType (applies found : ValueType)
deriving DecidableEq

/-- Why a match and its comparands make no criterion. -/
inductive CriterionFault where
  | family (family : Family) (type : ValueType)
  | comparands (comparison : Comparison) (count : Nat)
  | bounds
  | stated (message : String)
deriving DecidableEq

/-- Why a stored value cannot be read. -/
inductive DecodeFault where
  | column
  | byteOverflow (stored : Int)
  | negativeCount (count : Int)
deriving DecidableEq

/-- Why a connection could not be opened or closed. -/
inductive ConnectionFault where
  | refused
  | noAnswer (limit : Duration)
deriving DecidableEq

end TableStore
