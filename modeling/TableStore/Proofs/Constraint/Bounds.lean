import TableStore.Proofs.Constraint
import TableStore.Proofs.Interchange.Constraint
import TableStore.Proofs.Table.Legal

/-!
# Possible bounds

The constructors give exactly the constraints with sound bounds: in order, finite, and with a text
to allow. A constraint with sound bounds is met by some value of its type, if there is room for the
texts that it asks for: memory holds texts of fewer than 2 ^ 63 bytes, while lengths go on to
2 ^ 64.

Reading a constraint asks for none of this, and neither does declaring a field. So a declared
constraint that was read may be met by no value at all. Which ones are is decided by the bounds: a
range of binary numbers is met by some number when its policy lets one pass that is not finite, or
when a finite number stands between its bounds.
-/

namespace TableStore

open Binary

/-! ## Ranges of binary numbers -/

namespace Binary.Number

variable {format : Format} {least greatest : Number format}

/-- Whether the line of the ratios goes on from one bound to another without being at its end. -/
def Spans (least greatest : Number format) : Prop :=
  least.place ≤ greatest.place ∧ least.place ≠ ⊤ ∧ greatest.place ≠ ⊥

theorem place_of_isFinite {x : Number format} (finite : x.isFinite = true) :
    x.place = ((x.value : WithTop ℚ) : WithBot (WithTop ℚ)) :=
  if_pos finite

/-- What is not finite stands at an end of the line. -/
theorem place_of_not_isFinite {x : Number format} (notFinite : ¬x.isFinite = true) :
    x.place = ⊥ ∨ x.place = ⊤ := by
  rw [place, if_neg notFinite]
  split
  · exact .inl rfl
  · exact .inr rfl

/-- Bounds have a finite number between them when they span a part of the line. -/
theorem exists_finite_iff_spans (exponents : 0 < format.exponentBits) :
    (∃ x : Number format, x.isFinite = true ∧ least.place ≤ x.place ∧ x.place ≤ greatest.place) ↔
      least.Spans greatest := by
  constructor
  · rintro ⟨x, finite, above, below⟩
    refine ⟨above.trans below, ?_, ?_⟩
    · rintro top
      rw [top, top_le_iff, place_of_isFinite finite] at above
      exact WithTop.coe_ne_top (WithBot.coe_injective above)
    · rintro bottom
      rw [bottom, le_bot_iff, place_of_isFinite finite] at below
      exact WithBot.coe_ne_bot below
  · rintro ⟨ordered, notTop, notBottom⟩
    by_cases leastFinite : least.isFinite = true
    · exact ⟨least, leastFinite, le_rfl, ordered⟩
    by_cases greatestFinite : greatest.isFinite = true
    · exact ⟨greatest, greatestFinite, ordered, le_rfl⟩
    -- the whole line is spanned
    · have bottom := (place_of_not_isFinite leastFinite).resolve_right notTop
      have top := (place_of_not_isFinite greatestFinite).resolve_left notBottom
      have zero : (ofMagnitude false 0 : Number format).isFinite = true := by
        rw [isFinite, magnitude_ofMagnitude (Nat.two_pow_pos _), decide_eq_true_eq]
        exact infinity_pos exponents
      exact ⟨_, zero, bottom ▸ bot_le, top ▸ le_top⟩

theorem isInfinite_infinity :
    (ofMagnitude false format.infinity : Number format).isInfinite = true := by
  rw [isInfinite, magnitude_ofMagnitude (infinity_lt format), beq_self_eq_true]

theorem isNaN_aboveInfinity (fractions : 0 < format.fractionBits) :
    (ofMagnitude false (format.infinity + 1) : Number format).isNaN = true := by
  have bounded : format.infinity + 1 < 2 ^ (format.exponentBits + format.fractionBits) := by
    have exponents : 0 < 2 ^ format.exponentBits := Nat.two_pow_pos _
    have steps : 1 < 2 ^ format.fractionBits := Nat.one_lt_two_pow fractions.ne'
    have whole : 2 ^ format.exponentBits * 2 ^ format.fractionBits =
        (2 ^ format.exponentBits - 1) * 2 ^ format.fractionBits + 2 ^ format.fractionBits := by
      rw [← Nat.succ_mul, Nat.succ_eq_add_one, Nat.sub_add_cancel exponents]
    rw [Format.infinity, Nat.pow_add]
    omega
  rw [isNaN, magnitude_ofMagnitude bounded, decide_eq_true_eq]
  exact Nat.lt_succ_self _

end Binary.Number

namespace Rule

/-- A range of binary numbers is met by some number when its policy lets one pass that is not finite
or when its bounds span a part of the line. -/
theorem exists_admitsNumber_iff {format : Format} (exponents : 0 < format.exponentBits)
    (fractions : 0 < format.fractionBits) {least greatest : Number format} (allow : NonFinite)
    (leastNumber : least.isNaN = false) (greatestNumber : greatest.isNaN = false) :
    (∃ x, AdmitsNumber allow least greatest x) ↔
      allow ≠ .finiteOnly ∨ least.Spans greatest := by
  rw [← Number.exists_finite_iff_spans exponents]
  constructor
  · rintro ⟨x, nan, infinite, above, below⟩
    by_cases finite : x.isFinite = true
    · exact .inr ⟨x, finite, above finite leastNumber, below finite greatestNumber⟩
    · left
      rintro rfl
      simp only [reduceCtorEq, or_self, imp_false, Bool.not_eq_true] at nan infinite
      exact finite (by rw [Number.isFinite_eq, nan, infinite]; rfl)
  · rintro (lenient | ⟨x, finite, above, below⟩)
    · have infinite : (.ofMagnitude false format.infinity : Number format).isInfinite = true :=
        Number.isInfinite_infinity
      have notNaN : (.ofMagnitude false format.infinity : Number format).isNaN = false :=
        Number.isNaN_ofMagnitude le_rfl
      have nan := Number.isNaN_aboveInfinity fractions
      have notInfinite := Number.isInfinite_eq_false nan
      cases allow with
      | finiteOnly => exact absurd rfl lenient
      | allButInfinities =>
          refine ⟨.ofMagnitude false (format.infinity + 1), ?_⟩
          simp [admitsNumber_iff, Number.isFinite_eq, nan, notInfinite]
      | allValues | allButNaN =>
          refine ⟨.ofMagnitude false format.infinity, ?_⟩
          simp [admitsNumber_iff, Number.isFinite_eq, infinite, notNaN]
    · have number := (Number.isFinite_eq x).symm.trans finite
      simp only [Bool.and_eq_true, Bool.not_eq_true'] at number
      exact ⟨x, by simp [number.1], by simp [number.2], fun _ _ => above, fun _ _ => below⟩

end Rule

/-! ## Room in memory -/

/-- The greatest number of bytes of a text or of binary data in memory. -/
def greatestSize : Nat := 2 ^ 63 - 1

/-- Whether there is room for a value in memory. -/
def Value.HasRoom : Value → Prop
  | .string text => text.utf8ByteSize ≤ greatestSize
  | .blob bytes => bytes.length ≤ greatestSize
  | _ => True

namespace Rule

/-- Whether there is room for the texts that a rule asks for. -/
def HasRoom : Rule → Prop
  | .stringLength least _ => least.toNat ≤ greatestSize
  | .stringEnumerated allowed => ∀ text ∈ allowed, (Value.string text).HasRoom
  | _ => True

/-! ## Rules -/

/-- Whether the bounds of a rule are what its constructor asks for. -/
def IsSound : Rule → Prop
  | .byteRange least greatest => least ≤ greatest
  | .integerRange least greatest => least ≤ greatest
  | .longRange least greatest => least ≤ greatest
  | .floatRange least greatest _ =>
      least.isFinite = true ∧ greatest.isFinite = true ∧ least.place ≤ greatest.place
  | .doubleRange least greatest _ =>
      least.isFinite = true ∧ greatest.isFinite = true ∧ least.place ≤ greatest.place
  | .stringLength least greatest => least ≤ greatest
  | .stringEnumerated allowed => allowed ≠ []

/-- Whether the bounds of a rule allow for a value: sound bounds do if there is room for it, and so
do further ranges of binary numbers. -/
def IsSatisfiable : Rule → Prop
  | .floatRange least greatest allow => allow ≠ .finiteOnly ∨ least.Spans greatest
  | .doubleRange least greatest allow => allow ≠ .finiteOnly ∨ least.Spans greatest
  | .stringLength least greatest => least ≤ greatest ∧ least.toNat ≤ greatestSize
  | .stringEnumerated allowed => ∃ text ∈ allowed, (Value.string text).HasRoom
  | rule => rule.IsSound

/-- Finite bounds in order span a part of the line. -/
theorem spans_of_isFinite {format : Format} {least greatest : Number format}
    (sound : least.isFinite = true ∧ greatest.isFinite = true ∧ least.place ≤ greatest.place) :
    least.Spans greatest := by
  obtain ⟨leastFinite, greatestFinite, ordered⟩ := sound
  refine ⟨ordered, ?_, ?_⟩
  · rw [Number.place_of_isFinite leastFinite]
    exact fun top => WithTop.coe_ne_top (WithBot.coe_injective top)
  · rw [Number.place_of_isFinite greatestFinite]
    exact WithBot.coe_ne_bot

theorem IsSound.isSatisfiable {rule : Rule} (sound : rule.IsSound) (room : rule.HasRoom) :
    rule.IsSatisfiable := by
  cases rule with
  | floatRange least greatest allow | doubleRange least greatest allow =>
      exact .inr (spans_of_isFinite sound)
  | stringLength least greatest => exact ⟨sound, room⟩
  | stringEnumerated allowed =>
      obtain ⟨text, member⟩ := List.exists_mem_of_ne_nil allowed sound
      exact ⟨text, member, room text member⟩
  | _ => exact sound

/-- A text has at least as many bytes as characters. -/
theorem length_le_utf8ByteSize (text : String) : text.length ≤ text.utf8ByteSize := by
  rw [← String.length_toList, ← String.utf8Len_toList]
  induction text.toList with
  | nil => exact le_rfl
  | cons c rest ih =>
      rw [String.utf8Len_cons, List.length_cons]
      exact Nat.add_le_add ih c.utf8Size_pos

theorem utf8ByteSize_replicate (count : Nat) :
    (String.ofList (List.replicate count 'a')).utf8ByteSize = count := by
  rw [String.utf8ByteSize_ofList]
  induction count with
  | zero => rfl
  | succ count ih =>
      rw [List.replicate_succ, String.utf8Len_cons, ih]
      rfl

/-- Some value that there is room for meets a rule exactly when its bounds allow for one. -/
theorem exists_admits_iff {rule : Rule} (numbered : rule.IsNumbered) :
    (∃ value : Value, value.type = rule.type ∧ value.HasRoom ∧ rule.Admits value) ↔
      rule.IsSatisfiable := by
  cases rule with
  | byteRange least greatest =>
      constructor
      · rintro ⟨value, -, -, admits⟩
        cases value with
        | byte n => exact Int8.le_trans admits.1 admits.2
        | _ => cases admits
      · exact fun ordered => ⟨.byte least, rfl, trivial, Int8.le_refl _, ordered⟩
  | integerRange least greatest =>
      constructor
      · rintro ⟨value, -, -, admits⟩
        cases value with
        | integer n => exact Int32.le_trans admits.1 admits.2
        | _ => cases admits
      · exact fun ordered => ⟨.integer least, rfl, trivial, Int32.le_refl _, ordered⟩
  | longRange least greatest =>
      constructor
      · rintro ⟨value, -, -, admits⟩
        cases value with
        | long n => exact Int64.le_trans admits.1 admits.2
        | _ => cases admits
      · exact fun ordered => ⟨.long least, rfl, trivial, Int64.le_refl _, ordered⟩
  | floatRange least greatest allow =>
      rw [IsSatisfiable, ← exists_admitsNumber_iff (by decide) (by decide) allow numbered.1 numbered.2]
      constructor
      · rintro ⟨value, -, -, admits⟩
        cases value with
        | float x => exact ⟨x, admits⟩
        | _ => cases admits
      · exact fun ⟨x, admits⟩ => ⟨.float x, rfl, trivial, admits⟩
  | doubleRange least greatest allow =>
      rw [IsSatisfiable, ← exists_admitsNumber_iff (by decide) (by decide) allow numbered.1 numbered.2]
      constructor
      · rintro ⟨value, -, -, admits⟩
        cases value with
        | double x => exact ⟨x, admits⟩
        | _ => cases admits
      · exact fun ⟨x, admits⟩ => ⟨.double x, rfl, trivial, admits⟩
  | stringLength least greatest =>
      constructor
      · rintro ⟨value, -, room, admits⟩
        cases value with
        | string text =>
            exact ⟨admits.1.trans admits.2,
              (admits.1.trans (length_le_utf8ByteSize text)).trans room⟩
        | _ => cases admits
      · rintro ⟨ordered, room⟩
        have length : (String.ofList (List.replicate least.toNat 'a')).length = least.toNat := by
          rw [String.length_ofList, List.length_replicate]
        exact ⟨.string _, rfl, (utf8ByteSize_replicate least.toNat).le.trans room, length.ge,
          length.le.trans ordered⟩
  | stringEnumerated allowed =>
      constructor
      · rintro ⟨value, -, room, admits⟩
        cases value with
        | string text => exact ⟨text, admits, room⟩
        | _ => cases admits
      · rintro ⟨text, listed, room⟩
        exact ⟨.string text, rfl, room, listed⟩

/-- A length that no text in memory has is in order all the same. -/
example : (stringLength 9223372036854775808 9223372036854775808).IsSound ∧
    ¬(stringLength 9223372036854775808 9223372036854775808).IsSatisfiable :=
  ⟨show (9223372036854775808 : UInt64) ≤ 9223372036854775808 by decide,
    fun satisfiable => absurd satisfiable.2 (by decide)⟩

end Rule

/-! ## Constraints -/

namespace Constraint

variable {name : String} {rule : Rule} {constraint : Constraint}

/-- The constructor of a rule, applied to a name and the bounds. -/
def construct (name : String) : Rule → Except Error Constraint
  | .byteRange least greatest => byteRange name least greatest
  | .integerRange least greatest => integerRange name least greatest
  | .longRange least greatest => longRange name least greatest
  | .floatRange least greatest allow => floatRange name least greatest allow
  | .doubleRange least greatest allow => doubleRange name least greatest allow
  | .stringLength least greatest => stringLength name least greatest
  | .stringEnumerated allowed => stringEnumerated name allowed

/-- Whether a constraint is what a constructor gave. -/
def IsBuilt (constraint : Constraint) : Prop :=
  ∃ name rule, construct name rule = .ok constraint

/-- The constraints at hand are the built ones and those that JSON gives. -/
theorem atHand_iff :
    constraint.AtHand ↔ constraint.IsBuilt ∨
      ∃ text json, Json.ofText? text = some json ∧ ofJson? json = some constraint := by
  constructor
  · intro atHand
    cases atHand with
    | read parsed given => exact .inr ⟨_, _, parsed, given⟩
    | @byteRange name least greatest built => exact .inl ⟨name, .byteRange least greatest, built⟩
    | @integerRange name least greatest built =>
        exact .inl ⟨name, .integerRange least greatest, built⟩
    | @longRange name least greatest built => exact .inl ⟨name, .longRange least greatest, built⟩
    | @floatRange name least greatest allow built =>
        exact .inl ⟨name, .floatRange least greatest allow, built⟩
    | @doubleRange name least greatest allow built =>
        exact .inl ⟨name, .doubleRange least greatest allow, built⟩
    | @stringLength name least greatest built =>
        exact .inl ⟨name, .stringLength least greatest, built⟩
    | @stringEnumerated name allowed built => exact .inl ⟨name, .stringEnumerated allowed, built⟩
  · rintro (⟨name, rule, built⟩ | ⟨text, json, parsed, given⟩)
    · cases rule with
      | byteRange least greatest => exact .byteRange built
      | integerRange least greatest => exact .integerRange built
      | longRange least greatest => exact .longRange built
      | floatRange least greatest allow => exact .floatRange built
      | doubleRange least greatest allow => exact .doubleRange built
      | stringLength least greatest => exact .stringLength built
      | stringEnumerated allowed => exact .stringEnumerated built
    · exact .read parsed given

theorem ranged_eq_ok_iff {inverted : Bool} {least greatest : String} :
    ranged name inverted least greatest rule = .ok constraint ↔
      inverted = false ∧ constraint = ⟨name, rule⟩ := by
  cases inverted <;> simp [ranged, eq_comm]

theorem numberRange_eq_ok_iff {format : Format} (exponents : 0 < format.exponentBits)
    {least greatest : Number format} :
    numberRange name least greatest rule = .ok constraint ↔
      (least.isFinite = true ∧ greatest.isFinite = true ∧ least.place ≤ greatest.place) ∧
        constraint = ⟨name, rule⟩ := by
  unfold numberRange
  split
  · rename_i finite
    obtain ⟨leastFinite, greatestFinite⟩ := Bool.and_eq_true_iff.mp finite
    have numbers : least.isNaN = false ∧ greatest.isNaN = false := by
      rw [Number.isFinite_eq, Bool.and_eq_true, Bool.not_eq_true'] at leastFinite greatestFinite
      exact ⟨leastFinite.1, greatestFinite.1⟩
    have ordered : (least.compare? greatest == some .gt) = false ↔ least.place ≤ greatest.place := by
      rw [beq_eq_false_iff_ne, ne_eq, Number.compare?_eq_gt_iff exponents, ← not_lt]
      simp [numbers]
    rw [ranged_eq_ok_iff, ordered]
    simp [leastFinite, greatestFinite]
  · rename_i notFinite
    simp only [Bool.and_eq_true, not_and] at notFinite
    simp only [reduceCtorEq, false_iff, not_and]
    exact fun sound => absurd sound.2.1 (notFinite sound.1)

/-- A constructor accepts sound bounds and no others. -/
theorem construct_eq_ok_iff :
    construct name rule = .ok constraint ↔ rule.IsSound ∧ constraint = ⟨name, rule⟩ := by
  cases rule with
  | byteRange least greatest =>
      rw [construct, byteRange, ranged_eq_ok_iff, Rule.IsSound, Int8.le_iff_toInt_le,
        decide_eq_false_iff_not, not_lt]
  | integerRange least greatest =>
      rw [construct, integerRange, ranged_eq_ok_iff, Rule.IsSound, Int32.le_iff_toInt_le,
        decide_eq_false_iff_not, not_lt]
  | longRange least greatest =>
      rw [construct, longRange, ranged_eq_ok_iff, Rule.IsSound, Int64.le_iff_toInt_le,
        decide_eq_false_iff_not, not_lt]
  | floatRange least greatest allow => exact numberRange_eq_ok_iff (by decide)
  | doubleRange least greatest allow => exact numberRange_eq_ok_iff (by decide)
  | stringLength least greatest =>
      rw [construct, stringLength, ranged_eq_ok_iff, Rule.IsSound, UInt64.le_iff_toNat_le,
        decide_eq_false_iff_not, not_lt]
  | stringEnumerated allowed =>
      cases allowed with
      | nil => simp [construct, stringEnumerated, Rule.IsSound]
      | cons text rest => simp [construct, stringEnumerated, Rule.IsSound, eq_comm]

/-- The built constraints are those with sound bounds. -/
theorem isBuilt_iff_isSound : constraint.IsBuilt ↔ constraint.rule.IsSound := by
  constructor
  · rintro ⟨name, rule, built⟩
    obtain ⟨sound, rfl⟩ := construct_eq_ok_iff.mp built
    exact sound
  · exact fun sound => ⟨constraint.name, constraint.rule, construct_eq_ok_iff.mpr ⟨sound, rfl⟩⟩

/-- A constraint at hand whose bounds are not sound was read. -/
theorem AtHand.exists_text (atHand : constraint.AtHand) (unsound : ¬constraint.rule.IsSound) :
    ∃ text json, Json.ofText? text = some json ∧ ofJson? json = some constraint :=
  (atHand_iff.mp atHand).resolve_left fun built => unsound (isBuilt_iff_isSound.mp built)

end Constraint

/-- A constraint of a declared field was built exactly when its bounds are sound; otherwise it was
read, and reading takes any bounds that a text carries. Some value of the type of the field that
there is room for meets it exactly when its bounds allow for one, as sound bounds do unless they ask
for a text that there is no room for. -/
theorem declared_constraint_met_iff_satisfiable {table : Table} {field : Field}
    (declared : field ∈ table.fields) {constraint : Constraint}
    (attached : constraint ∈ field.constraints) (atHand : constraint.AtHand) :
    (constraint.IsBuilt ↔ constraint.rule.IsSound) ∧
      (¬constraint.rule.IsSound →
        ∃ text json, Json.ofText? text = some json ∧ Constraint.ofJson? json = some constraint) ∧
      (constraint.rule.IsCarried → ∀ layout, constraint.reread? layout = some constraint) ∧
      ((∃ value : Value, value.type = field.type ∧ value.HasRoom ∧
          constraint.error? field.name value = none) ↔ constraint.rule.IsSatisfiable) ∧
      (constraint.rule.IsSound → constraint.rule.HasRoom → constraint.rule.IsSatisfiable) := by
  have sameType : constraint.rule.type = field.type :=
    table.isLegal.constraintTypes field declared constraint attached
  refine ⟨Constraint.isBuilt_iff_isSound, atHand.exists_text, Constraint.reread?_eq_some, ?_,
    Rule.IsSound.isSatisfiable⟩
  simp only [← Rule.exists_admits_iff atHand.isNumbered, sameType,
    Field.constraint_error?_eq_none_iff]

/-- A table with one column, which counts pieces under a constraint. -/
def stockDeclaration (constraint : Constraint) : Declaration where
  tablespace := "main"
  schema := "main"
  name := "stock"
  fields := [⟨"pieces", .integer, .nullable, "", [constraint]⟩]

/-- From one to ten pieces is a range that some number of pieces meets. -/
theorem pieces_from_one_to_ten_are_met :
    Constraint.integerRange "pieces_range" 1 10 = .ok ⟨"pieces_range", .integerRange 1 10⟩ ∧
      ∃ value : Value, value.type = .integer ∧ value.HasRoom ∧
        Constraint.error? ⟨"pieces_range", .integerRange 1 10⟩ "pieces" value = none := by
  have built : Constraint.integerRange "pieces_range" 1 10 =
      .ok ⟨"pieces_range", .integerRange 1 10⟩ := by decide
  have declared : (⟨"pieces", .integer, .nullable, "", [⟨"pieces_range", .integerRange 1 10⟩]⟩ :
      Field) ∈ ((stockDeclaration ⟨"pieces_range", .integerRange 1 10⟩).accept (by decide)).fields :=
    List.mem_cons_self
  obtain ⟨-, -, -, met, sound⟩ :=
    declared_constraint_met_iff_satisfiable declared List.mem_cons_self (.integerRange built)
  exact ⟨built, met.mpr (sound (show (1 : Int32) ≤ 10 by decide) trivial)⟩

/-- A range of integers from ten to one. -/
def invertedRangeText : String :=
  "\x7b\"name\":\"r\",\"kind\":\x7b\"IntegerRange\":\x7b\"min\":10,\"max\":1\x7d\x7d\x7d"

/-- A range whose upper bound is too large for 32 bits. -/
def endlessRangeText : String :=
  "\x7b\"name\":\"r\",\"kind\":\x7b\"FloatRange\":" ++
    "\x7b\"min\":0.0,\"max\":1e39,\"allow\":\"FINITE_ONLY\"\x7d\x7d\x7d"

/-- A range from ten to one is read and declared, and no value meets it. A range is also read up to
an infinity, where its text has a bound that is too large. -/
theorem pieces_from_ten_to_one_are_declared :
    (Json.ofText? invertedRangeText).bind Constraint.ofJson? = some ⟨"r", .integerRange 10 1⟩ ∧
      ¬(Rule.integerRange 10 1).IsSound ∧
      (stockDeclaration ⟨"r", .integerRange 10 1⟩).freeze.toOption.isSome = true ∧
      (∀ value : Value, Constraint.error? ⟨"r", .integerRange 10 1⟩ "pieces" value ≠ none) ∧
      (Json.ofText? endlessRangeText).bind Constraint.ofJson? =
        some ⟨"r", .floatRange ⟨0⟩ ⟨0x7f800000⟩ .finiteOnly⟩ ∧
      ¬(Rule.floatRange ⟨0⟩ ⟨0x7f800000⟩ .finiteOnly).IsSound := by
  have unsound : ¬(Rule.integerRange 10 1).IsSound := show ¬(10 : Int32) ≤ 1 by decide
  refine ⟨by decide +kernel, unsound, by decide, ?_, by decide +kernel, ?_⟩
  · intro value met
    rw [Constraint.error?, Option.map_eq_none_iff, Rule.violation?_eq_none_iff_admits] at met
    cases value with
    | integer n => exact unsound (Int32.le_trans met.1 met.2)
    | _ => cases met
  · exact fun sound => absurd sound.2.1 (by decide)

end TableStore
