import TableStore.Json.Value

/-!
# Reading JSON

The reader takes one value off the front of a text, with the blanks after it. The
grammar is strict: no leading zeros, no comma at the end, no control characters in
strings. A text is a JSON text when nothing is left over.

Every value takes at least one character, so the length of the text bounds the depth
and the number of steps. The library `serde_json` also stops at a fixed depth of the values
that it keeps; the data that travels here has a few levels, and what is skipped does not count.
-/

namespace TableStore.Json

/-- Whether a character is a blank of JSON. -/
def isBlank (c : Char) : Bool :=
  c == ' ' || c == '\n' || c == '\t' || c == '\r'

/-- A text without its leading blanks. -/
def skip (text : List Char) : List Char :=
  text.dropWhile isBlank

/-- The character that a one-letter escape names. -/
def escaped? (c : Char) : Option Char :=
  if c = '"' then some '"'
  else if c = '\\' then some '\\'
  else if c = '/' then some '/'
  else if c = 'b' then some '\x08'
  else if c = 'f' then some '\x0c'
  else if c = 'n' then some '\n'
  else if c = 'r' then some '\r'
  else if c = 't' then some '\t'
  else none

/-- The code units of a string up to its closing quote, halves of surrogate pairs
apart, and the text after it. -/
def readUnits (units : List Nat) : List Char → Option (List Nat × List Char)
  | [] => none
  | '"' :: rest => some (units.reverse, rest)
  | '\\' :: 'u' :: a :: b :: c :: d :: rest =>
      (Hex.readBase? 16 [a, b, c, d]).bind fun unit => readUnits (unit :: units) rest
  | '\\' :: c :: rest =>
      (escaped? c).bind fun c => readUnits (c.toNat :: units) rest
  | c :: rest => if c.toNat < 32 then none else readUnits (c.toNat :: units) rest

/-- The text of code units, with surrogate pairs joined; none for half a pair. -/
def joinPairs? : List Nat → Option (List Char)
  | [] => some []
  | high :: low :: rest =>
      if 0xD800 ≤ high ∧ high < 0xDC00 then
        if 0xDC00 ≤ low ∧ low < 0xE000 then
          (joinPairs? rest).map
            (Char.ofNat (0x10000 + (high - 0xD800) * 0x400 + (low - 0xDC00)) :: ·)
        else none
      else if 0xDC00 ≤ high ∧ high < 0xE000 then none
      else (joinPairs? (low :: rest)).map (Char.ofNat high :: ·)
  | [unit] => if 0xD800 ≤ unit ∧ unit < 0xE000 then none else some [Char.ofNat unit]

/-- Read a string after its opening quote; the text is absent when it is no text. -/
def readString (text : List Char) : Option (Option String × List Char) :=
  (readUnits [] text).map fun (units, rest) => ((joinPairs? units).map String.ofList, rest)

/-- The digits at the front of a text, and the rest. -/
def spanDigits (text : List Char) : List Char × List Char :=
  (text.takeWhile Char.isDigit, text.dropWhile Char.isDigit)

/-- A number as it is written: sign, whole digits, digits after the point if there is
one, and the exponent if there is one. -/
structure Numeral where
  negative : Bool
  whole : List Char
  fraction : Option (List Char)
  exponent : Option (Bool × List Char)

/-- Read the exponent of a number, if one follows; the flag says that it is negative. -/
def readExponent (text : List Char) :
    Option (Option (Bool × List Char) × List Char) :=
  let after (negative : Bool) (text : List Char) :=
    match spanDigits text with
    | ([], _) => none
    | (ds, rest) => some (some (negative, ds), rest)
  match text with
  | 'e' :: '-' :: rest | 'E' :: '-' :: rest => after true rest
  | 'e' :: '+' :: rest | 'E' :: '+' :: rest => after false rest
  | 'e' :: rest | 'E' :: rest => after false rest
  | rest => some (none, rest)

/-- Read the digits after the point of a number, if there is a point. -/
def readFraction : List Char → Option (Option (List Char) × List Char)
  | '.' :: rest =>
      match spanDigits rest with
      | ([], _) => none
      | (ds, rest) => some (some ds, rest)
  | rest => some (none, rest)

/-- Read the whole digits of a number, which do not begin with a zero unless it stands
alone. -/
def readWhole (text : List Char) : Option (List Char × List Char) :=
  match spanDigits text with
  | ([], _) => none
  | ('0' :: _ :: _, _) => none
  | (ds, rest) => some (ds, rest)

/-- Read a number. -/
def readNumeral (text : List Char) : Option (Numeral × List Char) := do
  let (negative, text) :=
    match text with
    | '-' :: rest => (true, rest)
    | rest => (false, rest)
  let (whole, text) ← readWhole text
  let (fraction, text) ← readFraction text
  let (exponent, text) ← readExponent text
  return (⟨negative, whole, fraction, exponent⟩, text)

/-- Read a fixed word. -/
def readWord (word : List Char) (value : Json) (text : List Char) :
    Option (Json × List Char) :=
  if word.isPrefixOf text then some (value, text.drop word.length) else none

mutual

/-- Read a value that begins at the front of a text. -/
def readValue : Nat → List Char → Option (Json × List Char)
  | 0, _ => none
  | fuel + 1, text =>
      match text with
      | [] => none
      | '"' :: rest =>
          (readString rest).map fun (text, rest) => ((text.elim .noText .string), rest)
      | '[' :: rest =>
          match skip rest with
          | ']' :: rest => some (.array [], rest)
          | rest => (readElements fuel rest).map fun (elements, rest) => (.array elements, rest)
      | '\x7b' :: rest =>
          match skip rest with
          | '\x7d' :: rest => some (.object [], rest)
          | rest => (readMembers fuel rest).map fun (members, rest) => (.object members, rest)
      | 'n' :: _ => readWord "null".toList .null text
      | 't' :: _ => readWord "true".toList (.bool true) text
      | 'f' :: _ => readWord "false".toList (.bool false) text
      | _ =>
          (readNumeral text).map fun (_, rest) =>
            (.number (text.take (text.length - rest.length)), rest)

/-- Read the elements of an array up to its closing bracket. -/
def readElements : Nat → List Char → Option (List Json × List Char)
  | 0, _ => none
  | fuel + 1, text => do
      let (element, rest) ← readValue fuel text
      match skip rest with
      | ']' :: rest => return ([element], rest)
      | ',' :: rest =>
          let (elements, rest) ← readElements fuel (skip rest)
          return (element :: elements, rest)
      | _ => none

/-- Read the members of an object up to its closing brace. -/
def readMembers : Nat → List Char → Option (List (Option String × Json) × List Char)
  | 0, _ => none
  | fuel + 1, text => do
      let (name, rest) ←
        match text with
        | '"' :: rest => readString rest
        | _ => none
      let rest ←
        match skip rest with
        | ':' :: rest => some (skip rest)
        | _ => none
      let (value, rest) ← readValue fuel rest
      match skip rest with
      | '\x7d' :: rest => return ([(name, value)], rest)
      | ',' :: rest =>
          let (members, rest) ← readMembers fuel (skip rest)
          return ((name, value) :: members, rest)
      | _ => none

end

/-- The value that a whole text writes. -/
def ofText? (text : String) : Option Json :=
  let text := text.toList
  match readValue (text.length + 1) (skip text) with
  | some (value, rest) => if (skip rest).isEmpty then some value else none
  | none => none

end TableStore.Json
