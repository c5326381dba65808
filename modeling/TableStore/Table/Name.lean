import TableStore.Error.Basic

/-!
# Declared names

Tablespaces, schemas, tables and fields carry names of small letters, digits and
underscores that begin with a letter and have at most sixty-three characters. A
schema name must not end like the schemas of the other environments.
-/

namespace TableStore.Name

/-- Whether a character may begin a name. -/
def isStart (c : Char) : Bool :=
  c.isLower

/-- Whether a character may stand in a name. -/
def isPart (c : Char) : Bool :=
  c.isLower || c.isDigit || c == '_'

/-- Whether a text is a name. -/
def isValid (name : String) : Bool :=
  match name.toList with
  | [] => false
  | c :: rest => isStart c && rest.length < greatestNameLength && rest.all isPart

/-- The error of a text that should be a name. -/
def error? (kind : NameKind) (name : String) : Option Error :=
  if isValid name then none else some (.configuration (.invalidName kind name))

/-- The endings that mark the schemas of the other environments. -/
def reservedSuffixes : List String :=
  ["_d", "_t"]

/-- The reserved ending of a schema name, if it has one. -/
def reservedSuffix? (schema : String) : Option String :=
  reservedSuffixes.find? fun ending => ending.toList.isSuffixOf schema.toList

end TableStore.Name
