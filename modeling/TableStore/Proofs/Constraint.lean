import TableStore.Interchange.Value
import TableStore.Proofs.Json.Number

/-!
# Equal constraints

Constraints are compared like their parts. Bounds are compared as binary numbers, so the zeros of
both signs are equal and what is not a number is not even equal to itself.

No constraint that a program can get hold of has such a bound: the constructors refuse it, and
JSON cannot express it. So every such constraint is equal to itself.
-/

namespace TableStore

open Binary

/-! ## Equality -/

namespace Binary.Number

variable {format : Format}

/-- Equality of binary numbers: neither is without a number, and they are the same pattern or
both zeros. -/
def Equal (x y : Number format) : Prop :=
  x.isNaN = false ∧ y.isNaN = false ∧ (x = y ∨ x.magnitude = 0 ∧ y.magnitude = 0)

theorem position_eq_iff (x y : Number format) :
    x.position = y.position ↔ x = y ∨ x.magnitude = 0 ∧ y.magnitude = 0 := by
  have determined : x = y ↔ x.isNegative = y.isNegative ∧ x.magnitude = y.magnitude := by
    constructor
    · rintro rfl
      exact ⟨rfl, rfl⟩
    · rintro ⟨sign, magnitude⟩
      rw [← ofMagnitude_magnitude x, sign, magnitude, ofMagnitude_magnitude]
  rw [determined, position, position]
  cases x.isNegative <;> cases y.isNegative <;> simp <;> omega

theorem agrees_iff (x y : Number format) : x.agrees y = true ↔ x.Equal y := by
  simp only [agrees, Bool.and_eq_true, Bool.not_eq_true', beq_iff_eq, position_eq_iff, and_assoc,
    Equal]

theorem Equal.symm {x y : Number format} (same : x.Equal y) : y.Equal x :=
  ⟨same.2.1, same.1, same.2.2.imp Eq.symm And.symm⟩

theorem Equal.trans {x y z : Number format} (first : x.Equal y) (second : y.Equal z) :
    x.Equal z := by
  constructor
  · exact first.1
  · constructor
    · exact second.2.1
    · rcases first.2.2 with rfl | ⟨xZero, -⟩
      · exact second.2.2
      · rcases second.2.2 with rfl | ⟨-, zZero⟩
        · exact first.2.2
        · exact .inr ⟨xZero, zZero⟩

end Binary.Number

/-- Equality of rules. -/
def Rule.Equal : Rule → Rule → Prop
  | .floatRange a b allow, .floatRange c d allowed => a.Equal c ∧ b.Equal d ∧ allow = allowed
  | .doubleRange a b allow, .doubleRange c d allowed => a.Equal c ∧ b.Equal d ∧ allow = allowed
  | a, b => a = b

/-- Equality of constraints. -/
def Constraint.Equal (a b : Constraint) : Prop :=
  a.name = b.name ∧ a.rule.Equal b.rule

theorem Rule.agrees_iff (a b : Rule) : a.agrees b = true ↔ a.Equal b := by
  cases a <;> cases b <;> simp [agrees, Equal, Number.agrees_iff, and_assoc]

theorem Constraint.agrees_iff (a b : Constraint) : a.agrees b = true ↔ a.Equal b := by
  rw [agrees, Bool.and_eq_true, beq_iff_eq, Rule.agrees_iff, Equal]

theorem Rule.Equal.symm {a b : Rule} (same : a.Equal b) : b.Equal a := by
  cases a with
  | floatRange least greatest allow | doubleRange least greatest allow =>
      cases b <;> first | exact ⟨same.1.symm, same.2.1.symm, same.2.2.symm⟩ | cases same
  | _ =>
      cases same
      rfl

theorem Rule.Equal.trans {a b c : Rule} (first : a.Equal b) (second : b.Equal c) : a.Equal c := by
  cases a with
  | floatRange least greatest allow | doubleRange least greatest allow =>
      -- a range of binary numbers is equal to no other kind of rule
      cases b <;> try (cases first; done)
      cases c <;> try (cases second; done)
      exact ⟨first.1.trans second.1, first.2.1.trans second.2.1, first.2.2.trans second.2.2⟩
  | _ =>
      cases first
      exact second

theorem Constraint.Equal.symm {a b : Constraint} (same : a.Equal b) : b.Equal a :=
  ⟨same.1.symm, same.2.symm⟩

theorem Constraint.Equal.trans {a b c : Constraint} (first : a.Equal b) (second : b.Equal c) :
    a.Equal c :=
  ⟨first.1.trans second.1, first.2.trans second.2⟩

/-! ## Bounds that are numbers -/

/-- Whether the bounds of a rule are numbers. -/
def Rule.IsNumbered : Rule → Prop
  | .floatRange least greatest _ => least.isNaN = false ∧ greatest.isNaN = false
  | .doubleRange least greatest _ => least.isNaN = false ∧ greatest.isNaN = false
  | _ => True

/-- A rule is equal to itself exactly when its bounds are numbers. -/
theorem Rule.equal_self_iff (rule : Rule) : rule.Equal rule ↔ rule.IsNumbered := by
  cases rule <;> simp [Equal, IsNumbered, Number.Equal]

theorem Constraint.equal_self_iff (constraint : Constraint) :
    constraint.Equal constraint ↔ constraint.rule.IsNumbered := by
  rw [Equal, Rule.equal_self_iff]
  exact and_iff_right rfl

/-- The constraints that a program can get hold of: those of the constructors and those read from
a JSON text. -/
inductive Constraint.AtHand (constraint : Constraint) : Prop
  | byteRange {name least greatest}
      (built : Constraint.byteRange name least greatest = .ok constraint)
  | integerRange {name least greatest}
      (built : Constraint.integerRange name least greatest = .ok constraint)
  | longRange {name least greatest}
      (built : Constraint.longRange name least greatest = .ok constraint)
  | floatRange {name least greatest allow}
      (built : Constraint.floatRange name least greatest allow = .ok constraint)
  | doubleRange {name least greatest allow}
      (built : Constraint.doubleRange name least greatest allow = .ok constraint)
  | stringLength {name least greatest}
      (built : Constraint.stringLength name least greatest = .ok constraint)
  | stringEnumerated {name allowed}
      (built : Constraint.stringEnumerated name allowed = .ok constraint)
  | read {text json} (parsed : Json.ofText? text = some json)
      (given : Constraint.ofJson? json = some constraint)

namespace Constraint

theorem rule_of_ranged {name least greatest : String} {inverted : Bool} {rule : Rule}
    {constraint : Constraint}
    (built : ranged name inverted least greatest rule = .ok constraint) :
    constraint.rule = rule := by
  unfold ranged at built
  split at built
  · cases built
  · cases built
    rfl

theorem rule_of_stringEnumerated {name : String} {allowed : List String}
    {constraint : Constraint} (built : stringEnumerated name allowed = .ok constraint) :
    constraint.rule = .stringEnumerated allowed := by
  unfold stringEnumerated at built
  split at built
  · cases built
  · cases built
    rfl

/-- A range of binary numbers has finite bounds. -/
theorem isNaN_of_numberRange {format : Format} {name : String} {least greatest : Number format}
    {rule : Rule} {constraint : Constraint}
    (built : numberRange name least greatest rule = .ok constraint) :
    constraint.rule = rule ∧ least.isNaN = false ∧ greatest.isNaN = false := by
  unfold numberRange at built
  split at built
  · rename_i finite
    simp only [Bool.and_eq_true, Number.isFinite, decide_eq_true_eq] at finite
    simp only [Number.isNaN, decide_eq_false_iff_not]
    exact ⟨rule_of_ranged built, by omega, by omega⟩
  · cases built

end Constraint

/-- Bounds with a policy are read one by one. -/
theorem Rule.exists_of_policyBounds? {α : Type} {content : Json} {read : Json → Option α}
    {least greatest : α} {allow : NonFinite}
    (given : policyBounds? content read = some (least, greatest, allow)) :
    ∃ lower upper, read lower = some least ∧ read upper = some greatest := by
  simp only [policyBounds?, Option.bind_eq_bind, Option.bind_eq_some_iff] at given
  obtain ⟨members, -, given⟩ := given
  split at given
  · rename_i lower upper policy
    simp only [Option.bind_eq_some_iff, pure, Option.some.injEq, Prod.mk.injEq] at given
    obtain ⟨_, lowerRead, _, upperRead, _, -, rfl, rfl, -⟩ := given
    exact ⟨lower, upper, lowerRead, upperRead⟩
  · cases given

theorem Rule.isNumbered_of_map {α : Type} {bounds : Option α} {make : α → Rule} {rule : Rule}
    (made : bounds.map make = some rule) (numbered : ∀ x ∈ bounds, (make x).IsNumbered) :
    rule.IsNumbered := by
  obtain ⟨x, given, rfl⟩ := Option.map_eq_some_iff.mp made
  exact numbered x given

/-- The bounds of a rule that JSON gives are numbers. -/
theorem Rule.isNumbered_of_ofJson? {json : Json} {rule : Rule} (given : ofJson? json = some rule) :
    rule.IsNumbered := by
  simp only [ofJson?, Option.bind_eq_bind, Option.bind_eq_some_iff] at given
  obtain ⟨⟨name, content⟩, -, content, -, given⟩ := given
  -- The kinds of rules are tried in turn; only those of binary numbers have bounds to ask about.
  split at given
  · exact isNumbered_of_map given fun _ _ => trivial
  split at given
  · exact isNumbered_of_map given fun _ _ => trivial
  split at given
  · exact isNumbered_of_map given fun _ _ => trivial
  split at given
  · refine isNumbered_of_map given fun _ bounds => ?_
    obtain ⟨_, _, lower, upper⟩ := exists_of_policyBounds? bounds
    exact ⟨Json.isNaN_of_single? lower, Json.isNaN_of_single? upper⟩
  split at given
  · refine isNumbered_of_map given fun _ bounds => ?_
    obtain ⟨_, _, lower, upper⟩ := exists_of_policyBounds? bounds
    exact ⟨Json.isNaN_of_double? lower, Json.isNaN_of_double? upper⟩
  split at given
  · exact isNumbered_of_map given fun _ _ => trivial
  split at given
  · obtain ⟨_, -, given⟩ := Option.bind_eq_some_iff.mp given
    split at given
    · exact isNumbered_of_map given fun _ _ => trivial
    · cases given
  · cases given

namespace Constraint

theorem isNumbered_of_ofJson? {json : Json} {constraint : Constraint}
    (given : ofJson? json = some constraint) : constraint.rule.IsNumbered := by
  simp only [ofJson?, Option.bind_eq_bind, Option.bind_eq_some_iff] at given
  obtain ⟨members, -, given⟩ := given
  split at given
  · simp only [Option.bind_eq_some_iff, pure, Option.some.injEq] at given
    obtain ⟨_, -, rule, read, rfl⟩ := given
    exact Rule.isNumbered_of_ofJson? read
  · cases given

/-- The bounds of every constraint at hand are numbers. -/
theorem AtHand.isNumbered {constraint : Constraint} (atHand : constraint.AtHand) :
    constraint.rule.IsNumbered := by
  cases atHand with
  | byteRange built => rw [rule_of_ranged built]; trivial
  | integerRange built => rw [rule_of_ranged built]; trivial
  | longRange built => rw [rule_of_ranged built]; trivial
  | floatRange built =>
      obtain ⟨rule, bounds⟩ := isNaN_of_numberRange built
      rw [rule]
      exact bounds
  | doubleRange built =>
      obtain ⟨rule, bounds⟩ := isNaN_of_numberRange built
      rw [rule]
      exact bounds
  | stringLength built => rw [rule_of_ranged built]; trivial
  | stringEnumerated built => rw [rule_of_stringEnumerated built]; trivial
  | read _ given => exact isNumbered_of_ofJson? given

/-- Every constraint at hand is equal to itself. -/
theorem AtHand.equal_self {constraint : Constraint} (atHand : constraint.AtHand) :
    constraint.Equal constraint :=
  (equal_self_iff constraint).mpr atHand.isNumbered

end Constraint

end TableStore
