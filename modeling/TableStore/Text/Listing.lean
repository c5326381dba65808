import TableStore.Text.Character

/-!
# Listings of texts

A list of texts is shown between square brackets, each text between double quotes.
Quotes, backslashes and the usual control characters are escaped by name, and every
other character without a form of its own by its code point.
-/

namespace TableStore.Text

/-- The escaped form of one character inside double quotes. -/
def escapeListed (c : Char) : List Char :=
  if c = '\x00' then ['\\', '0']
  else if c = '\t' then ['\\', 't']
  else if c = '\r' then ['\\', 'r']
  else if c = '\n' then ['\\', 'n']
  else if c = '"' then ['\\', '"']
  else if c = '\\' then ['\\', '\\']
  else if isHidden c then '\\' :: 'u' :: '\x7b' :: (Nat.toDigits 16 c.toNat ++ ['\x7d'])
  else [c]

/-- A text between double quotes. -/
def listed (text : String) : String :=
  String.ofList ('"' :: (text.toList.flatMap escapeListed ++ ['"']))

/-- A list of texts between square brackets. -/
def listing (texts : List String) : String :=
  "[" ++ ", ".intercalate (texts.map listed) ++ "]"

end TableStore.Text
