import TableStore.Decimal.Digits
import TableStore.Text.Character

/-!
# Log filters

A filter is a list of directives. A directive names a level, which holds for the targets
whose names begin with its target, or for all. The directive with the longest target
decides about a name, and of two with one target the later.

Directives are written between commas: a level, a target, or a target and a level around
an equals sign; without a level everything is let through. A directive may also name
a span and fields in brackets. Such a directive is checked, and says nothing about what
is logged outside of spans.

Blanks around a directive are passed over when its marks are looked for, and yet count
where it is cut at them, so a blank before a directive moves each cut.
-/

namespace TableStore.Logging

open Decimal Text

/-- Why a text is not a list of log directives. -/
inductive Fault where
  | malformed
  | unknownLevel
deriving DecidableEq, Repr

/-- The description of a fault. -/
def Fault.message : Fault → String
  | .malformed => "invalid filter directive"
  | .unknownLevel =>
      "error parsing level filter: expected one of \"off\", \"error\", \"warn\", \"info\", " ++
        "\"debug\", \"trace\", or a number 0-5"

/-- How much is logged, from little to much. -/
inductive Level where
  | error
  | warn
  | info
  | debug
  | trace
deriving DecidableEq, Repr

namespace Level

/-- Every level. -/
def all : List Level :=
  [.error, .warn, .info, .debug, .trace]

/-- The name of a level in directives. -/
def name : Level → String
  | .error => "error"
  | .warn => "warn"
  | .info => "info"
  | .debug => "debug"
  | .trace => "trace"

/-- The number of a level that is not zero. -/
def ofNumber? (n : Nat) : Option Level :=
  all[n - 1]?

/-- The level or the end of logging that a text names, by its name in any case or by a
number, perhaps after a plus sign; an empty text names errors. -/
def ofText? (text : List Char) : Option (Option Level) :=
  let name := String.ofList (text.map Char.toLower)
  let number? := readNat? (if text.head? = some '+' then text.tail else text)
  if number? = some 0 ∨ name = "off" then some none
  else
    match number?.bind ofNumber? with
    | some level => some (some level)
    | none =>
        if name = "" then some (some .error)
        else (all.find? (·.name == name)).map some

end Level

/-- A rule about the targets that begin with a text, or about all; without a level nothing
of them is logged. -/
structure Directive where
  target? : Option (List Char)
  level? : Option Level
deriving DecidableEq

namespace Directive

/-- Whether a directive may begin with a character; outside ASCII every character is taken
for a letter. -/
def mayBegin (c : Char) : Bool :=
  c.isAlphanum || 0x80 ≤ c.toNat || c == '-' || c == ':' || c == '_'

/-- The level after an equals sign; an empty text lets everything through. -/
def levelOf (text : List Char) : Except Fault (Option Level) :=
  if text.isEmpty then .ok (some .trace)
  else
    match Level.ofText? text with
    | some level? => .ok level?
    | none => .error .unknownLevel

/-- The directive of a text without an equals sign: a level or else a target. -/
def ofName (text : List Char) : Directive :=
  match Level.ofText? text with
  | some level? => ⟨none, level?⟩
  | none => ⟨some text, some .trace⟩

/-- The number of characters of a span in brackets, after the opening one and up to the
closing one. Fields stand in braces, and their text is not empty. -/
def spanLength? : List Char → Option Nat
  | [] => none
  | ']' :: _ => some 1
  | '\x7b' :: rest =>
      let fields := rest.takeWhile (· != '\x7d')
      if fields.isEmpty then none
      else
        match rest.drop fields.length with
        | _ :: ']' :: _ => some (fields.length + 3)
        | _ => none
  | _ :: rest => (spanLength? rest).map (· + 1)

/-- Check the level of a directive about a span, of which a number of characters has been
read. -/
def checkSpan (text marks : List Char) (length : Nat) : Except Fault (Option Directive) :=
  match marks.drop length with
  | [] => .ok none
  | '=' :: _ => (levelOf (text.drop (length + 1))).map fun _ => none
  | _ => .error .malformed

/-- The directive of a text, none if it is about a span. -/
def ofText (text : List Char) : Except Fault (Option Directive) :=
  let marks := trimBlanks text
  let target := marks.takeWhile fun c => c != '=' && c != '['
  match target.head?, marks.drop target.length with
  | none, '[' :: rest | some _, '[' :: rest =>
      if !(target.head?.all mayBegin) then .error .malformed
      else
        match spanLength? rest with
        | none => .error .malformed
        | some length => checkSpan text marks (target.length + 1 + length)
  | none, _ => .error .malformed
  | some first, rest =>
      if !mayBegin first then .error .malformed
      else
        match rest with
        | [] => .ok (some (ofName text))
        | _ =>
            (levelOf (text.drop (target.length + 1))).map fun level? =>
              some ⟨some (text.take target.length), level?⟩

/-- Whether a directive is about a name. -/
def concerns (directive : Directive) (name : List Char) : Bool :=
  directive.target?.all (·.isPrefixOf name)

/-- The length of the target of a directive; a directive about all is shorter than every
other. -/
def specificity (directive : Directive) : Nat :=
  match directive.target? with
  | none => 0
  | some target => target.length + 1

end Directive

/-- The directives by which logging is filtered. -/
structure Filter where
  directives : List Directive
deriving DecidableEq

namespace Filter

/-- The filter that a text gives. -/
def ofText (text : String) : Except Fault Filter := do
  let parts := (text.toList.splitOnP (· == ',')).filter (!·.isEmpty)
  return ⟨(← parts.mapM Directive.ofText).filterMap id⟩

/-- The directive that decides about a name. -/
def directive? (filter : Filter) (name : String) : Option Directive :=
  (filter.directives.filter (·.concerns name.toList)).foldl
    (fun best? directive =>
      match best? with
      | none => some directive
      | some best =>
          if best.specificity ≤ directive.specificity then some directive else some best)
    none

/-- The level up to which a name is logged, none if it is not logged at all. -/
def level? (filter : Filter) (name : String) : Option Level :=
  (filter.directive? name).bind Directive.level?

end Filter

end TableStore.Logging
