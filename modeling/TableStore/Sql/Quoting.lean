/-!
# Quoting

Identifiers stand between double quotes, with every double quote inside written
twice. Texts are escape strings between single quotes, with every backslash and every
single quote inside written twice; an escape string reads the same under every
setting of the server.
-/

namespace TableStore.Sql

/-- A text with one character written twice wherever it occurs. -/
def double (c : Char) : List Char → List Char
  | [] => []
  | d :: rest => if d = c then d :: d :: double c rest else d :: double c rest

/-- The characters of a quoted identifier. -/
def identifierChars (name : List Char) : List Char :=
  '"' :: (double '"' name ++ ['"'])

/-- The characters of an escape string. -/
def stringChars (text : List Char) : List Char :=
  'E' :: '\'' :: (double '\'' (double '\\' text) ++ ['\''])

/-- A quoted identifier. -/
def quoteIdentifier (name : String) : String :=
  String.ofList (identifierChars name.toList)

/-- An escape string. -/
def quoteString (text : String) : String :=
  String.ofList (stringChars text.toList)

@[simp]
theorem toList_quoteIdentifier (name : String) :
    (quoteIdentifier name).toList = identifierChars name.toList := by
  simp [quoteIdentifier]

@[simp]
theorem toList_quoteString (text : String) :
    (quoteString text).toList = stringChars text.toList := by
  simp [quoteString]

end TableStore.Sql
