import TableStore.Value.Type

/-!
# Column types

Each value type is stored in a column of one native type. A live column may report
its type under several names; case does not matter, and a name without a value type is
left unread.
-/

namespace TableStore

namespace ValueType

/-- The native type of a column for the values of a type. -/
def nativeName : ValueType → String
  | .string => "text"
  | .boolean => "boolean"
  | .byte => "smallint"
  | .integer => "integer"
  | .long => "bigint"
  | .float => "real"
  | .double => "double precision"
  | .blob => "bytea"
  | .localDate => "date"
  | .localTime => "time without time zone"
  | .localDateTime => "timestamp without time zone"

/-- The names under which live columns of a type report themselves. -/
def liveNames : ValueType → List String
  | .string => ["text", "character varying", "varchar", "character", "char"]
  | .boolean => ["boolean", "bool"]
  | .byte => ["smallint", "int2"]
  | .integer => ["integer", "int", "int4"]
  | .long => ["bigint", "int8"]
  | .float => ["real", "float4"]
  | .double => ["double precision", "float8"]
  | .blob => ["bytea"]
  | .localDate => ["date"]
  | .localTime => ["time without time zone", "time"]
  | .localDateTime => ["timestamp without time zone", "timestamp"]

/-- The value type of a live column that reports a type. No character outside ASCII has
a small form that occurs in one of the names, so folding ASCII is enough. -/
def ofLiveName? (reported : String) : Option ValueType :=
  let name := String.ofList (reported.toList.map Char.toLower)
  all.find? fun type => name ∈ type.liveNames

/-- Whether a live column that reports a type holds the values of a type. -/
def holdsIn (type : ValueType) (reported : String) : Bool :=
  ofLiveName? reported == some type

end ValueType

end TableStore
