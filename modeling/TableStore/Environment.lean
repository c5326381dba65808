/-!
# Environments

Every logical schema exists once for each environment. A connection addresses one of
them for its whole life. Environments have a short name for messages and a long
name for reading; case does not matter when one is read.

In production a logical schema is a schema of the server. In development and testing
it has a counterpart with an ending of its own, except that all schemas of terms
share one counterpart, because a single term is active there.
-/

namespace TableStore

/-- The environment that a connection addresses. -/
inductive Environment where
  | production
  | development
  | testing
deriving DecidableEq, Repr

namespace Environment

/-- Every environment. -/
def all : List Environment :=
  [.production, .development, .testing]

/-- The short name of an environment. -/
def shortName : Environment → String
  | .production => "prod"
  | .development => "dev"
  | .testing => "test"

/-- The name of an environment in full. -/
def longName : Environment → String
  | .production => "Production"
  | .development => "Development"
  | .testing => "Testing"

/-- A text with the capital letters of ASCII made small. -/
def foldCase (text : String) : String :=
  String.ofList (text.toList.map Char.toLower)

/-- The environment with the given short or long name, in any case. -/
def ofName? (name : String) : Option Environment :=
  let name := foldCase name
  if name = "prod" ∨ name = "production" then some .production
  else if name = "dev" ∨ name = "development" then some .development
  else if name = "test" ∨ name = "testing" then some .testing
  else none

end Environment

namespace Routing

/-- The beginning of the schemas of terms. -/
def termMark : String := "term_"

/-- Whether a logical schema belongs to a term. -/
def isTermSchema (schema : String) : Bool :=
  termMark.toList.isPrefixOf schema.toList

/-- The schema of the server that holds a logical schema in an environment. -/
def physicalSchema (schema : String) : Environment → String
  | .production => schema
  | .development => if isTermSchema schema then "term_d" else schema ++ "_d"
  | .testing => if isTermSchema schema then "term_t" else schema ++ "_t"

end Routing

end TableStore
