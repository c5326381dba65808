import TableStore.Decimal.Notation
import TableStore.Error.Basic

/-!
# Constraints

A constraint is a rule with a name. Range rules hold an inclusive pair of bounds for
one numeric type, length rules bound the number of characters of a text, and an
enumeration lists the texts that are allowed. Rules about binary numbers also say
which values that are not finite pass.

The constructors refuse bounds in the wrong order, bounds that are not finite and
empty enumerations.
-/

namespace TableStore

open Binary

/-- Which values that are not finite pass a range rule. -/
inductive NonFinite where
  | allValues
  | allButNaN
  | allButInfinities
  | finiteOnly
deriving DecidableEq, Repr

namespace NonFinite

/-- Whether a pattern that is not a number passes. -/
def allowsNaN : NonFinite → Bool
  | .allValues | .allButInfinities => true
  | _ => false

/-- Whether the infinities pass. -/
def allowsInfinite : NonFinite → Bool
  | .allValues | .allButNaN => true
  | _ => false

/-- The name of a policy. -/
def name : NonFinite → String
  | .allValues => "ALL_VALUES"
  | .allButNaN => "ALL_BUT_NAN"
  | .allButInfinities => "ALL_BUT_INFINITIES"
  | .finiteOnly => "FINITE_ONLY"

end NonFinite

/-- What a constraint demands of a value. -/
inductive Rule where
  | byteRange (least greatest : Int8)
  | integerRange (least greatest : Int32)
  | longRange (least greatest : Int64)
  | floatRange (least greatest : Single) (allow : NonFinite)
  | doubleRange (least greatest : Double) (allow : NonFinite)
  | stringLength (least greatest : UInt64)
  | stringEnumerated (allowed : List String)
deriving DecidableEq

namespace Rule

/-- The type of the values that a rule is about. -/
def type : Rule → ValueType
  | .byteRange .. => .byte
  | .integerRange .. => .integer
  | .longRange .. => .long
  | .floatRange .. => .float
  | .doubleRange .. => .double
  | .stringLength .. | .stringEnumerated .. => .string

/-- Equality of rules, with bounds compared as numbers. -/
def agrees : Rule → Rule → Bool
  | .floatRange a b allow, .floatRange c d allowed =>
      a.agrees c && b.agrees d && allow == allowed
  | .doubleRange a b allow, .doubleRange c d allowed =>
      a.agrees c && b.agrees d && allow == allowed
  | a, b => a == b

/-- How an integer breaks inclusive bounds. -/
def integerViolation? (value least greatest : Int) : Option Violation :=
  if value < least ∨ greatest < value then
    some (.outside (integerText value) (integerText least) (integerText greatest))
  else none

/-- How a binary number breaks inclusive bounds under a policy for values that are
not finite. -/
def numberViolation? {format : Format} (allow : NonFinite)
    (value least greatest : Number format) : Option Violation :=
  if value.isNaN then
    if allow.allowsNaN then none else some .notANumber
  else if value.isInfinite then
    if allow.allowsInfinite then none else some (.infinite value.isNegative)
  else if value.compare? least = some .lt ∨ value.compare? greatest = some .gt then
    some (.outside value.decimalText least.decimalText greatest.decimalText)
  else none

/-- How a value breaks a rule, if it does. -/
def violation? : Rule → Value → Option Violation
  | .byteRange least greatest, .byte n =>
      integerViolation? n.toInt least.toInt greatest.toInt
  | .integerRange least greatest, .integer n =>
      integerViolation? n.toInt least.toInt greatest.toInt
  | .longRange least greatest, .long n =>
      integerViolation? n.toInt least.toInt greatest.toInt
  | .floatRange least greatest allow, .float x => numberViolation? allow x least greatest
  | .doubleRange least greatest allow, .double x => numberViolation? allow x least greatest
  | .stringLength least greatest, .string text =>
      let characters := text.toList.length
      if characters < least.toNat ∨ greatest.toNat < characters then
        some (.length characters least.toNat greatest.toNat)
      else none
  | .stringEnumerated allowed, .string text =>
      if text ∈ allowed then none else some (.notListed text allowed)
  | rule, value => some (.otherType rule.type value.type)

end Rule

/-- A rule with a name. -/
structure Constraint where
  name : String
  rule : Rule
deriving DecidableEq

namespace Constraint

/-- The only type of field that a constraint can be attached to. -/
def type (constraint : Constraint) : ValueType :=
  constraint.rule.type

/-- Equality of constraints, with bounds compared as numbers. -/
def agrees (a b : Constraint) : Bool :=
  a.name == b.name && a.rule.agrees b.rule

/-- The error of a value that breaks the constraint of a field, if it does. -/
def error? (constraint : Constraint) (field : String) (value : Value) : Option Error :=
  (constraint.rule.violation? value).map (.constraintViolation field constraint.name)

/-- A constraint from a rule with bounds that must be in order; the bounds are given with
their texts. -/
def ranged (name : String) (inverted : Bool) (least greatest : String) (rule : Rule) :
    Except Error Constraint :=
  if inverted then .error (.configuration (.invertedBounds name least greatest))
  else .ok ⟨name, rule⟩

/-- An inclusive range of bytes. -/
def byteRange (name : String) (least greatest : Int8) : Except Error Constraint :=
  ranged name (greatest.toInt < least.toInt) (integerText least.toInt)
    (integerText greatest.toInt) (.byteRange least greatest)

/-- An inclusive range of integers. -/
def integerRange (name : String) (least greatest : Int32) : Except Error Constraint :=
  ranged name (greatest.toInt < least.toInt) (integerText least.toInt)
    (integerText greatest.toInt) (.integerRange least greatest)

/-- An inclusive range of long integers. -/
def longRange (name : String) (least greatest : Int64) : Except Error Constraint :=
  ranged name (greatest.toInt < least.toInt) (integerText least.toInt)
    (integerText greatest.toInt) (.longRange least greatest)

/-- An inclusive range of binary numbers, whose bounds must be finite. -/
def numberRange {format : Format} (name : String) (least greatest : Number format)
    (rule : Rule) : Except Error Constraint :=
  if least.isFinite && greatest.isFinite then
    ranged name (least.compare? greatest == some .gt) least.decimalText greatest.decimalText
      rule
  else .error (.configuration (.boundsNotFinite name))

/-- An inclusive range of numbers of 32 bits. -/
def floatRange (name : String) (least greatest : Single) (allow : NonFinite) :
    Except Error Constraint :=
  numberRange name least greatest (.floatRange least greatest allow)

/-- An inclusive range of numbers of 64 bits. -/
def doubleRange (name : String) (least greatest : Double) (allow : NonFinite) :
    Except Error Constraint :=
  numberRange name least greatest (.doubleRange least greatest allow)

/-- Inclusive bounds on the number of characters of a text. -/
def stringLength (name : String) (least greatest : UInt64) : Except Error Constraint :=
  ranged name (greatest.toNat < least.toNat) (toString least.toNat) (toString greatest.toNat)
    (.stringLength least greatest)

/-- A list of the texts that are allowed. -/
def stringEnumerated (name : String) (allowed : List String) : Except Error Constraint :=
  if allowed.isEmpty then .error (.configuration (.nothingAllowed name))
  else .ok ⟨name, .stringEnumerated allowed⟩

end Constraint

end TableStore
