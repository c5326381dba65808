import TableStore.Calendar.Reading
import TableStore.Interchange.Names

/-!
# Interchange of values and constraints

A value travels as a choice of its type with its content: texts as strings, bytes as an
array of numbers, dates and times as strings in their written form. A constraint
travels as a record of its name and its rule, which is a choice of its kind.

Reading a constraint does not check its bounds.
-/

namespace TableStore

open Binary Calendar

namespace Value

/-- A value as JSON. -/
def toJson : Value → Json
  | .string text => .choice "String" (.string text)
  | .boolean truth => .choice "Boolean" (.bool truth)
  | .byte number => .choice "Byte" (.ofInt number.toInt)
  | .integer number => .choice "Integer" (.ofInt number.toInt)
  | .long number => .choice "Long" (.ofInt number.toInt)
  | .float number => .choice "Float" (.ofSingle number)
  | .double number => .choice "Double" (.ofDouble number)
  | .blob bytes => .choice "Blob" (.array (bytes.map fun byte => .ofNat byte.toNat))
  | .localDate date => .choice "LocalDate" (.string (String.ofList date.text))
  | .localTime time => .choice "LocalTime" (.string (String.ofList time.text))
  | .localDateTime date time =>
      .choice "LocalDateTime" (.string (String.ofList (date.text ++ 'T' :: time.text)))

/-- The byte of a number. -/
def byteOfJson? (value : Json) : Option UInt8 :=
  (value.integer? 0 255).map fun n => UInt8.ofNat n.toNat

/-- The value that JSON gives. -/
def ofJson? (value : Json) : Option Value := do
  let (name, content) ← value.choice?
  let content ← content
  if name = "String" then content.text?.map .string
  else if name = "Boolean" then content.truth?.map .boolean
  else if name = "Byte" then
    (content.integer? Int8.minValue.toInt Int8.maxValue.toInt).map fun n => .byte (Int8.ofInt n)
  else if name = "Integer" then
    (content.integer? Int32.minValue.toInt Int32.maxValue.toInt).map fun n => .integer (Int32.ofInt n)
  else if name = "Long" then
    (content.integer? Int64.minValue.toInt Int64.maxValue.toInt).map fun n => .long (Int64.ofInt n)
  else if name = "Float" then content.single?.map .float
  else if name = "Double" then content.double?.map .double
  else if name = "Blob" then (content.list? byteOfJson?).map .blob
  else if name = "LocalDate" then do
    let text ← content.text?
    (Date.ofText? text.toList).map .localDate
  else if name = "LocalTime" then do
    let text ← content.text?
    (Time.ofText? text.toList).map .localTime
  else if name = "LocalDateTime" then do
    let text ← content.text?
    (readDateTime? text.toList).map fun (date, time) => .localDateTime date time
  else none

end Value

namespace Rule

/-- A pair of bounds as the members of a record. -/
def boundsRecord (least greatest : Json) (further : List (String × Json)) : Json :=
  .record ([("min", least), ("max", greatest)] ++ further)

/-- A rule as JSON. -/
def toJson : Rule → Json
  | .byteRange least greatest =>
      .choice "ByteRange" (boundsRecord (.ofInt least.toInt) (.ofInt greatest.toInt) [])
  | .integerRange least greatest =>
      .choice "IntegerRange" (boundsRecord (.ofInt least.toInt) (.ofInt greatest.toInt) [])
  | .longRange least greatest =>
      .choice "LongRange" (boundsRecord (.ofInt least.toInt) (.ofInt greatest.toInt) [])
  | .floatRange least greatest allow =>
      .choice "FloatRange" (boundsRecord (.ofSingle least) (.ofSingle greatest)
        [("allow", .string allow.name)])
  | .doubleRange least greatest allow =>
      .choice "DoubleRange" (boundsRecord (.ofDouble least) (.ofDouble greatest)
        [("allow", .string allow.name)])
  | .stringLength least greatest =>
      .choice "StringLength" (boundsRecord (.ofNat least.toNat) (.ofNat greatest.toNat) [])
  | .stringEnumerated allowed =>
      .choice "StringEnumerated" (.record [("allowed", .strings allowed)])

/-- Two bounds that JSON gives. -/
def bounds? {α : Type} (content : Json) (read : Json → Option α) :
    Option (α × α) := do
  match ← content.record? false ["min", "max"] with
  | [some least, some greatest] => return (← read least, ← read greatest)
  | _ => none

/-- Two bounds and a policy that JSON gives. -/
def policyBounds? {α : Type} (content : Json) (read : Json → Option α) :
    Option (α × α × NonFinite) := do
  match ← content.record? false ["min", "max", "allow"] with
  | [some least, some greatest, some allow] =>
      return (← read least, ← read greatest, ← allow.named? NonFinite.all NonFinite.name)
  | _ => none

/-- The rule that JSON gives. -/
def ofJson? (value : Json) : Option Rule := do
  let (name, content) ← value.choice?
  let content ← content
  if name = "ByteRange" then
    (bounds? content (·.integer? Int8.minValue.toInt Int8.maxValue.toInt)).map fun (least, greatest) =>
      .byteRange (Int8.ofInt least) (Int8.ofInt greatest)
  else if name = "IntegerRange" then
    (bounds? content (·.integer? Int32.minValue.toInt Int32.maxValue.toInt)).map fun (least, greatest) =>
      .integerRange (Int32.ofInt least) (Int32.ofInt greatest)
  else if name = "LongRange" then
    (bounds? content (·.integer? Int64.minValue.toInt Int64.maxValue.toInt)).map fun (least, greatest) =>
      .longRange (Int64.ofInt least) (Int64.ofInt greatest)
  else if name = "FloatRange" then
    (policyBounds? content Json.single?).map fun (least, greatest, allow) =>
      .floatRange least greatest allow
  else if name = "DoubleRange" then
    (policyBounds? content Json.double?).map fun (least, greatest, allow) =>
      .doubleRange least greatest allow
  else if name = "StringLength" then
    (bounds? content Json.natural?).map fun (least, greatest) =>
      .stringLength (UInt64.ofNat least) (UInt64.ofNat greatest)
  else if name = "StringEnumerated" then
    match ← content.record? false ["allowed"] with
    | [some allowed] => (allowed.list? Json.text?).map .stringEnumerated
    | _ => none
  else none

end Rule

namespace Constraint

/-- A constraint as JSON. -/
def toJson (constraint : Constraint) : Json :=
  .record [("name", .string constraint.name), ("kind", constraint.rule.toJson)]

/-- The constraint that JSON gives. -/
def ofJson? (value : Json) : Option Constraint := do
  match ← value.record? false ["name", "kind"] with
  | [some name, some kind] => return ⟨← name.text?, ← Rule.ofJson? kind⟩
  | _ => none

end Constraint

end TableStore
