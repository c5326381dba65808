import Mathlib.Order.Compare
import TableStore.Proofs.Value.Literal

/-!
# The order of a column

A server orders the values of every column. Integers, texts, bytes, dates and times have their
own order. Binary numbers stand by their position on the line, so both zeros are level; what is
not a number is level with itself and comes after all numbers.

The order is total on the values of each type and agrees with the order of values wherever
there is one. It sees no difference between a value and the value as a server stores it.
-/

namespace TableStore

open Binary Calendar

namespace Binary.Number

variable {format : Format}

/-- The place of a binary number in the order of a column. -/
def rank (x : Number format) : Int :=
  if x.isNaN then format.infinity + 1 else x.position

theorem position_le_infinity {x : Number format} (number : x.isNaN = false) :
    x.position ≤ format.infinity := by
  simp only [isNaN, decide_eq_false_iff_not] at number
  unfold position
  split <;> omega

/-- What is not a number comes after all numbers. -/
theorem rank_lt_rank {x y : Number format} (number : x.isNaN = false) (nan : y.isNaN = true) :
    x.rank < y.rank := by
  have bounded := position_le_infinity number
  simp only [rank, number, nan, Bool.false_eq_true, if_false, if_true]
  omega

theorem isNaN_nan_single : (nan .single).isNaN = true := by
  decide

theorem isNaN_nan_double : (nan .double).isNaN = true := by
  decide +kernel

/-- A number is as high as its stored form when that form of what is not a number is itself
not a number. -/
theorem rank_canonical (nan : (nan format).isNaN = true) (x : Number format) :
    x.canonical.rank = x.rank := by
  unfold canonical
  split
  · rename_i notNumber
    simp [rank, nan, notNumber]
  · rfl

end Binary.Number

namespace Value

/-- The order of two values of a column. Only binary numbers need more than the order of
values, which is absent where one of them is not a number. -/
def order : Value → Value → Ordering
  | .float a, .float b => compare a.rank b.rank
  | .double a, .double b => compare a.rank b.rank
  | a, b => (a.compare? b).getD .eq

/-- Whether a value stands before another. -/
def Before (a b : Value) : Prop :=
  a.order b = .lt
deriving Decidable

/-- Whether a value stands before another or level with it. -/
def AtMost (a b : Value) : Prop :=
  a.order b ≠ .gt
deriving Decidable

/-- Whether two values are level. -/
def Level (a b : Value) : Prop :=
  a.order b = .eq
deriving Decidable

/-- A value is level with what a server stores of it, in comparison with any other. -/
@[simp]
theorem order_canonical (a b : Value) : a.order b.canonical = a.order b := by
  cases b with
  | float y =>
      cases a with
      | float x => simp only [canonical, order, Number.rank_canonical Number.isNaN_nan_single]
      | _ => rfl
  | double y =>
      cases a with
      | double x => simp only [canonical, order, Number.rank_canonical Number.isNaN_nan_double]
      | _ => rfl
  | _ => rfl

theorem compare_rank {format : Format} {x y : Number format} {ordering : Ordering}
    (compares : x.compare? y = some ordering) : compare x.rank y.rank = ordering := by
  unfold Number.compare? at compares
  split at compares
  · cases compares
  · rename_i numbers
    simp only [Bool.or_eq_true, not_or, Bool.not_eq_true] at numbers
    simpa [Number.rank, numbers] using compares

/-- Values that can be compared stand in a column as they compare. -/
theorem order_of_compare? {a b : Value} {ordering : Ordering}
    (compares : a.compare? b = some ordering) : a.order b = ordering := by
  cases a <;> cases b <;> first
    | exact Option.some.inj compares
    | exact compare_rank compares

/-- What the values of a type are made of. -/
def Content : ValueType → Type
  | .string => String
  | .boolean => Bool
  | .byte => Int8
  | .integer => Int32
  | .long => Int64
  | .float => Single
  | .double => Double
  | .blob => List UInt8
  | .localDate => Date
  | .localTime => Time
  | .localDateTime => Date × Time

/-- The value of a type with a content. -/
def make : (type : ValueType) → Content type → Value
  | .string, text => .string text
  | .boolean, truth => .boolean truth
  | .byte, number => .byte number
  | .integer, number => .integer number
  | .long, number => .long number
  | .float, number => .float number
  | .double, number => .double number
  | .blob, bytes => .blob bytes
  | .localDate, day => .localDate day
  | .localTime, clock => .localTime clock
  | .localDateTime, (day, clock) => .localDateTime day clock

theorem exists_make {type : ValueType} {value : Value} (typed : value.type = type) :
    ∃ content, make type content = value := by
  subst typed
  cases value with
  | localDateTime day clock => exact ⟨(day, clock), rfl⟩
  | _ => exact ⟨_, rfl⟩

theorem transCmp_on {α β : Type} {cmp : β → β → Ordering} (total : Std.TransCmp cmp)
    (key : α → β) : Std.TransCmp fun x y => cmp (key x) (key y) where
  eq_swap := total.eq_swap
  isLE_trans := total.isLE_trans

theorem transCmp_date : Std.TransCmp Date.compare :=
  inferInstanceAs (Std.TransCmp (compareLex (compareOn Date.year)
    (compareLex (compareOn Date.month) (compareOn Date.day))))

theorem transCmp_time : Std.TransCmp Time.compare :=
  inferInstanceAs (Std.TransCmp (compareLex (compareOn fun time : Time => time.hour)
    (compareLex (compareOn fun time : Time => time.minute)
      (compareLex (compareOn fun time : Time => time.second)
        (compareOn fun time : Time => time.nanos)))))

theorem transCmp_bytes : Std.TransCmp fun a b : List UInt8 => compareOfLessAndEq a b :=
  Std.TransCmp.compareOfLessAndEq_of_irrefl_of_trans_of_antisymm List.lt_irrefl List.lt_trans
    fun notBefore notAfter => List.le_antisymm notAfter notBefore

theorem transCmp_make (type : ValueType) :
    Std.TransCmp fun x y : Content type => (make type x).order (make type y) := by
  cases type with
  | string => exact inferInstanceAs (Std.TransCmp fun a b : String => compare a b)
  | boolean => exact inferInstanceAs (Std.TransCmp (compareOn Bool.toNat))
  | byte => exact inferInstanceAs (Std.TransCmp (compareOn Int8.toInt))
  | integer => exact inferInstanceAs (Std.TransCmp (compareOn Int32.toInt))
  | long => exact inferInstanceAs (Std.TransCmp (compareOn Int64.toInt))
  | float | double => exact inferInstanceAs (Std.TransCmp (compareOn Number.rank))
  | blob => exact transCmp_bytes
  | localDate => exact transCmp_date
  | localTime => exact transCmp_time
  | localDateTime =>
      let days : Date × Time → Date × Time → Ordering := fun x y => x.1.compare y.1
      let clocks : Date × Time → Date × Time → Ordering := fun x y => x.2.compare y.2
      have : Std.TransCmp days := transCmp_on transCmp_date Prod.fst
      have : Std.TransCmp clocks := transCmp_on transCmp_time Prod.snd
      exact inferInstanceAs (Std.TransCmp (compareLex days clocks))

/-- The order of a column is total on the values of its type. -/
theorem transCmp_order (type : ValueType) :
    Std.TransCmp fun a b : {value : Value // value.type = type} => a.1.order b.1 where
  eq_swap := by
    rintro ⟨a, typeA⟩ ⟨b, typeB⟩
    obtain ⟨x, rfl⟩ := exists_make typeA
    obtain ⟨y, rfl⟩ := exists_make typeB
    exact (transCmp_make type).eq_swap
  isLE_trans := by
    rintro ⟨a, typeA⟩ ⟨b, typeB⟩ ⟨c, typeC⟩
    obtain ⟨x, rfl⟩ := exists_make typeA
    obtain ⟨y, rfl⟩ := exists_make typeB
    obtain ⟨z, rfl⟩ := exists_make typeC
    exact (transCmp_make type).isLE_trans

/-- Texts are level only with themselves. -/
theorem level_string_iff {a b : String} : (string a).Level (.string b) ↔ a = b := by
  change compare a b = .eq ↔ a = b
  exact Std.LawfulEqCmp.compare_eq_iff_eq

/-- Truth values are level only with themselves. -/
theorem level_boolean_iff {a b : Bool} : (boolean a).Level (.boolean b) ↔ a = b := by
  cases a <;> cases b <;> decide

/-- A value lies before another of its type exactly if the other comes after it. -/
theorem order_swap {a b : Value} (same : a.type = b.type) : (b.order a).swap = a.order b :=
  ((transCmp_order b.type).eq_swap (a := ⟨a, same⟩) (b := ⟨b, rfl⟩)).symm

end Value

end TableStore
