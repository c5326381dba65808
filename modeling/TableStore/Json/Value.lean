import TableStore.Hex

/-!
# JSON values

A JSON value keeps the literal of a number, so that each reader decides what the
number means, and the order of the members of an object. A string that names half of a
surrogate pair is a JSON string but no text, and is kept apart; the same goes for the
name of a member.

Values are written without blanks, or with one element to a line and two blanks for
each level.

Both layouts, and the way back from either, are what the library `serde_json` documents.
-/

namespace TableStore

/-- A JSON value. -/
inductive Json where
  | null
  | bool (truth : Bool)
  | number (literal : List Char)
  | string (text : String)
  | noText
  | array (elements : List Json)
  | object (members : List (Option String × Json))

namespace Json

/-- The object with the given members. -/
def record (members : List (String × Json)) : Json :=
  .object (members.map fun (name, value) => (some name, value))

/-- The array of the given texts. -/
def strings (texts : List String) : Json :=
  .array (texts.map .string)

/-- The written form of one character of a string. -/
def escapeChar (c : Char) : List Char :=
  if c = '"' then ['\\', '"']
  else if c = '\\' then ['\\', '\\']
  else if c = '\x08' then ['\\', 'b']
  else if c = '\x0c' then ['\\', 'f']
  else if c = '\n' then ['\\', 'n']
  else if c = '\r' then ['\\', 'r']
  else if c = '\t' then ['\\', 't']
  else if c.toNat < 32 then '\\' :: 'u' :: Hex.padded 4 c.toNat
  else [c]

/-- The written form of a string. -/
def stringText (text : String) : List Char :=
  '"' :: (text.toList.flatMap escapeChar ++ ['"'])

/-- How the parts of arrays and objects are laid out. -/
inductive Layout where
  | compact
  | indented
deriving DecidableEq, Repr

/-- The start of a line at a depth, or nothing in a compact layout. -/
def Layout.lineStart (layout : Layout) (depth : Nat) : List Char :=
  match layout with
  | .compact => []
  | .indented => '\n' :: List.replicate (2 * depth) ' '

/-- What stands between the name of a member and its value. -/
def Layout.colon : Layout → List Char
  | .compact => [':']
  | .indented => [':', ' ']

mutual

/-- The characters of a value at a depth. -/
def chars (layout : Layout) (depth : Nat) : Json → List Char
  | .null => "null".toList
  | .bool true => "true".toList
  | .bool false => "false".toList
  | .number literal => literal
  | .string text => stringText text
  | .noText => stringText ""
  | .array [] => ['[', ']']
  | .array (first :: rest) =>
      '[' :: (layout.lineStart (depth + 1) ++ chars layout (depth + 1) first ++
        elementChars layout (depth + 1) rest ++ layout.lineStart depth ++ [']'])
  | .object [] => ['\x7b', '\x7d']
  | .object ((name, first) :: rest) =>
      '\x7b' :: (layout.lineStart (depth + 1) ++ stringText (name.getD "") ++ layout.colon ++
        chars layout (depth + 1) first ++ memberChars layout (depth + 1) rest ++
        layout.lineStart depth ++ ['\x7d'])

/-- The characters of the further elements of an array. -/
def elementChars (layout : Layout) (depth : Nat) : List Json → List Char
  | [] => []
  | element :: rest =>
      ',' :: (layout.lineStart depth ++ chars layout depth element ++
        elementChars layout depth rest)

/-- The characters of the further members of an object. -/
def memberChars (layout : Layout) (depth : Nat) :
    List (Option String × Json) → List Char
  | [] => []
  | (name, value) :: rest =>
      ',' :: (layout.lineStart depth ++ stringText (name.getD "") ++ layout.colon ++
        chars layout depth value ++ memberChars layout depth rest)

end

/-- The text of a value. -/
def text (layout : Layout) (value : Json) : String :=
  String.ofList (chars layout 0 value)

end Json

end TableStore
