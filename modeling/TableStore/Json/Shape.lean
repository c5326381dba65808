import TableStore.Json.Number

/-!
# Shapes of JSON values

Three shapes carry data. A record is an object with known members, each at most once, or
an array with one element for each member in order. A choice is a name alone or an
object with a single member, whose name is the choice and whose value is its content. A
list is an array.

Members that a record does not know are skipped, unless the record is strict. These are the
forms that `serde` documents for derived readers and writers.
-/

namespace TableStore.Json

variable {α : Type}

/-- The text of a string. -/
def text? : Json → Option String
  | .string text => some text
  | _ => none

/-- The truth value of a value. -/
def truth? : Json → Option Bool
  | .bool truth => some truth
  | _ => none

/-- The elements of an array, each read. -/
def list? (read : Json → Option α) : Json → Option (List α)
  | .array elements => elements.mapM read
  | _ => none

/-- The value read, or nothing for an absent value or null. -/
def optional? (read : Json → Option α) : Option Json → Option (Option α)
  | none | some .null => some none
  | some value => (read value).map some

/-- The members of an object whose names are all texts. -/
def namedMembers? (members : List (Option String × Json)) : Option (List (String × Json)) :=
  members.mapM fun (name, value) => name.map fun name => (name, value)

/-- The only member with a name, absent if there is none; more than one is refused. -/
def uniqueMember? (members : List (String × Json)) (name : String) : Option (Option Json) :=
  match members.filter fun member => member.1 == name with
  | [] => some none
  | [(_, value)] => some (some value)
  | _ => none

/-- The values of the members of a record, in the order of the given names. -/
def record? (strict : Bool) (names : List String) : Json → Option (List (Option Json))
  | .array elements =>
      if elements.length = names.length then some (elements.map some) else none
  | .object members => do
      let members ← namedMembers? members
      if strict && members.any (fun member => !names.contains member.1) then none
      else names.mapM (uniqueMember? members)
  | _ => none

/-- The name and the content of a choice. -/
def choice? : Json → Option (String × Option Json)
  | .string name => some (name, none)
  | .object [(some name, content)] => some (name, some content)
  | _ => none

/-- Whether the content of a choice is empty. -/
def isUnit : Option Json → Bool
  | none | some .null => true
  | _ => false

/-- The member of a list that a choice without content names. -/
def named? (all : List α) (name : α → String) (value : Json) : Option α := do
  let (chosen, content) ← value.choice?
  if isUnit content then all.find? fun member => name member == chosen else none

/-- A choice with content. -/
def choice (name : String) (content : Json) : Json :=
  record [(name, content)]

end TableStore.Json
