import TableStore.Error.Cause

/-!
# Errors

The errors of declaring, binding and checking arise before anything reaches a
server. The errors of a server carry the table, the environment and the statement. Each
error has one message, and the two groups are told apart by one test.
-/

namespace TableStore

/-- An error with its cause. -/
inductive Error where
  | configuration (cause : Misconfiguration)
  | binding (table field : String)
  | typeMismatch (field : String) (expected found : ValueType)
  | nullViolation (field : String)
  | constraintViolation (field constraint : String) (cause : Violation)
  | unrepresentable (field : String) (issue : StorageIssue)
  | invalidCriterion (field : String) (cause : CriterionFault)
  | connection (environment : Environment) (target : String) (cause : ConnectionFault)
  | statement (table : String) (environment : Environment) (statement : String)
  | timeout (table : String) (environment : Environment) (statement : String)
      (limit : Duration)
  | decode (table field : String) (cause : DecodeFault)
  | unsupportedConnection (implementation product : String)
deriving DecidableEq

/-- Whether an error was raised by the server rather than by the caller's arguments. -/
def Error.isBackendFailure : Error → Bool
  | .connection .. | .statement .. | .timeout .. | .decode .. => true
  | _ => false

/-- The label of a declared name in messages. -/
def NameKind.label : NameKind → String
  | .tablespace => "tablespace"
  | .schema => "schema"
  | .table => "table"
  | .field => "field"

/-- The label of a name on the server in messages. -/
def ServerName.label : ServerName → String
  | .database => "Database name"
  | .user => "Username"

/-- The label of a time limit in messages and in URLs. -/
def TimeLimit.label : TimeLimit → String
  | .connect => "connect_timeout"
  | .statement => "statement_timeout"

/-- The unit in which a URL gives a time limit. -/
def TimeLimit.unit : TimeLimit → String
  | .connect => "seconds"
  | .statement => "milliseconds"

/-- The greatest number of characters of a name. -/
def greatestNameLength : Nat := 63

/-- The greatest time limit. -/
def greatestLimit : Duration := .ofSeconds 300

/-- The message about a fault of a name on the server. -/
def ServerNameFault.message (part : ServerName) : ServerNameFault → String
  | .tooLong => s!"{part.label} too long: maximum {greatestNameLength} characters"
  | .start => s!"{part.label} must start with a letter or underscore"
  | .character =>
      s!"{part.label} contains invalid characters " ++
        "(only letters, digits, underscores, and dollar signs allowed)"

/-- The message about a misconfiguration. -/
def Misconfiguration.message : Misconfiguration → String
  | .invalidName kind name =>
      s!"{kind.label} name '{name}' must match [a-z][a-z0-9_]* and be at most " ++
        s!"{greatestNameLength} characters"
  | .reservedSuffix schema suffix =>
      s!"schema name '{schema}' ends with '{suffix}', which is reserved for " ++
        "non-production schemas"
  | .noFields table => s!"table '{table}' must declare at least one field"
  | .constraintOfOtherType constraint applies field type =>
      s!"constraint '{constraint}' applies to {applies.name} but field '{field}' is {type.name}"
  | .constraintTwice field constraint =>
      s!"field '{field}' declares constraint '{constraint}' twice"
  | .fieldTwice table field => s!"table '{table}' declares field '{field}' twice"
  | .invertedBounds constraint least greatest =>
      s!"constraint '{constraint}' has minimum {least} greater than maximum {greatest}"
  | .boundsNotFinite constraint => s!"constraint '{constraint}' bounds must be finite"
  | .nothingAllowed constraint => s!"constraint '{constraint}' must allow at least one value"
  | .tooManyValues table values fields =>
      s!"record for '{table}' has {values} values but the table has {fields} fields"
  | .emptyUpdate table => s!"update of '{table}' must change at least one field"
  | .assignedTwice field => s!"field '{field}' is assigned more than once"
  | .updateElsewhere values criteria =>
      s!"update values target '{values}' but criteria target '{criteria}'"
  | .recordElsewhere record table =>
      s!"record for '{record}' cannot be inserted into '{table}'"
  | .tableTwice table => s!"table '{table}' is already registered"
  | .termNumber term => s!"term ID {term} is not of the form YYYYNN"
  | .termUnregistered table term =>
      s!"{table} is not registered; add term {term} to the registry"
  | .unknownEnvironment name => s!"unknown context '{name}': expected prod, dev or test"
  | .url fault => s!"Invalid PostgreSQL connection string format: {fault.message}"
  | .scheme => "Connection string must use postgres:// or postgresql:// scheme"
  | .noHost => "Connection string must specify a host"
  | .serverName part fault => fault.message part
  | .limitNotNumber limit => s!"{limit.label} must be a number of {limit.unit}"
  | .limitZero limit => s!"{limit.label} must be greater than 0"
  | .limitTooLong limit =>
      s!"{limit.label} should not exceed {greatestLimit.seconds} seconds"
  | .emptyHost => "host cannot be empty"
  | .portZero => "port must be greater than 0"
  | .emptyApplicationName => "application_name cannot be empty"
  | .logDirectives directives fault =>
      s!"invalid STRATA_LOG '{directives}': {fault.message}"
  | .loggingTwice =>
      "logging already initialized: a global default trace dispatcher has already been set"
  | .stated message => message

/-- The message about a broken constraint. -/
def Violation.message : Violation → String
  | .outside value least greatest => s!"{value} is outside [{least}, {greatest}]"
  | .length characters least greatest =>
      s!"length {characters} is outside [{least}, {greatest}]"
  | .notANumber => "NaN is not allowed"
  | .infinite negative => (if negative then "-inf" else "inf") ++ " is not allowed"
  | .notListed text allowed => s!"'{text}' is not one of {Text.listing allowed}"
  | .otherType applies found => s!"applies to {applies.name} values, got {found.name}"

/-- The message about an unusable match. -/
def CriterionFault.message : CriterionFault → String
  | .family wanted type => s!"{wanted.name} match on a {type.name} field"
  | .comparands comparison count => s!"{comparison.text} cannot take {count} comparand(s)"
  | .bounds => "lower bound must not exceed upper bound"
  | .stated message => message

/-- The message about a stored value that cannot be read. -/
def DecodeFault.message : DecodeFault → String
  | .column => "the column is missing or of another type"
  | .byteOverflow stored => s!"stored value {stored} does not fit in a BYTE"
  | .negativeCount count => s!"negative count {count}"

/-- The message about a connection that was not opened, where there is more to say. -/
def ConnectionFault.message? : ConnectionFault → Option String
  | .refused => none
  | .noAnswer limit => some s!"no connection after {limit.text}"

/-- The message of an error. -/
def Error.message : Error → String
  | .configuration cause => s!"Configuration error: {cause.message}"
  | .binding table field =>
      s!"Binding error: field '{field}' is not part of table '{table}'"
  | .typeMismatch field expected found =>
      s!"Type mismatch for field '{field}': expected {expected.name}, found {found.name}"
  | .nullViolation field => s!"Field '{field}' does not accept null values"
  | .constraintViolation field constraint cause =>
      s!"Value for field '{field}' violates constraint '{constraint}': {cause.message}"
  | .unrepresentable field issue =>
      s!"Value for field '{field}' cannot be stored exactly: {issue.message}"
  | .invalidCriterion field cause =>
      s!"Invalid criterion on field '{field}': {cause.message}"
  | .connection environment target _ =>
      s!"Database connection failed for {environment.shortName} context: {target}"
  | .statement table environment sent =>
      s!"Statement failed on table '{table}' ({environment.shortName}): {sent}"
  | .timeout table environment sent limit =>
      s!"Statement on table '{table}' ({environment.shortName}) timed out after " ++
        s!"{limit.text}: {sent}"
  | .decode table field cause =>
      s!"Failed to decode field '{field}' of table '{table}': {cause.message}"
  | .unsupportedConnection implementation product =>
      s!"Unsupported connection: {implementation} cannot use a {product} connection"

end TableStore
