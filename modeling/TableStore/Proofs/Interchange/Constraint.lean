import TableStore.Proofs.Interchange.Value

/-!
# Constraints read back from their text

A constraint is read back from its text when its bounds are: integers and lengths always, binary
numbers when their texts carry them.

Nothing else is asked of the bounds. They are read whatever their order, and a list of allowed texts
is read even when it is empty.
-/

namespace TableStore

open Binary

namespace Value

variable {layout : Json.Layout}

/-- The text of a binary number that is carried is read as the number. -/
theorem IsCarried.single? {x : Single} (carried : (float x).IsCarried) :
    (Json.ofSingle x).single? = some x := by
  obtain ⟨finite, y, rounded, same⟩ := carried
  rw [Json.single?_ofSingle finite, rounded, Option.map_some, same]

theorem IsCarried.double? {x : Double} (carried : (double x).IsCarried) :
    (Json.ofDouble x).double? = some x := by
  obtain ⟨finite, y, rounded, level⟩ := carried
  rw [Json.double?_ofDouble finite, rounded, Option.map_some, level, x.ofMagnitude_magnitude]

end Value

namespace Rule

/-- Whether the text of a rule carries its bounds. -/
def IsCarried : Rule → Prop
  | .floatRange least greatest _ => (Value.float least).IsCarried ∧ (Value.float greatest).IsCarried
  | .doubleRange least greatest _ =>
      (Value.double least).IsCarried ∧ (Value.double greatest).IsCarried
  | _ => True

theorem isWritten_boundsRecord {least greatest : Json} {further : List (String × Json)}
    (first : least.IsWritten) (second : greatest.IsWritten)
    (others : ∀ member ∈ further, member.2.IsWritten) :
    (boundsRecord least greatest further).IsWritten := by
  refine Json.isWritten_record fun member given => ?_
  rcases List.mem_append.mp given with bound | other
  · simp only [List.mem_cons, List.not_mem_nil, or_false] at bound
    rcases bound with rfl | rfl
    · exact first
    · exact second
  · exact others member other

theorem isWritten_toJson (rule : Rule) : rule.toJson.IsWritten := by
  have policy : ∀ allow : NonFinite, ∀ member ∈ [("allow", Json.string allow.name)],
      member.2.IsWritten := by
    intro allow member given
    rw [List.mem_singleton.mp given]
    exact .string _
  cases rule with
  | byteRange least greatest | integerRange least greatest | longRange least greatest =>
      exact Json.isWritten_choice (isWritten_boundsRecord (Json.isWritten_ofInt _)
        (Json.isWritten_ofInt _) (by simp))
  | floatRange least greatest allow =>
      exact Json.isWritten_choice (isWritten_boundsRecord (Json.isWritten_ofSingle _)
        (Json.isWritten_ofSingle _) (policy allow))
  | doubleRange least greatest allow =>
      exact Json.isWritten_choice (isWritten_boundsRecord (Json.isWritten_ofDouble _)
        (Json.isWritten_ofDouble _) (policy allow))
  | stringLength least greatest =>
      exact Json.isWritten_choice (isWritten_boundsRecord (Json.isWritten_ofInt least.toNat)
        (Json.isWritten_ofInt greatest.toNat) (by simp))
  | stringEnumerated allowed =>
      refine Json.isWritten_choice (Json.isWritten_record fun member given => ?_)
      rw [List.mem_singleton.mp given]
      exact Json.isWritten_strings allowed

/-- Two bounds are read from their record, in whatever order they are. -/
theorem bounds?_boundsRecord {α : Type} {read : Json → Option α} {first second : Json}
    {least greatest : α} (firstRead : read first = some least)
    (secondRead : read second = some greatest) :
    bounds? (boundsRecord first second []) read = some (least, greatest) := by
  have members : (boundsRecord first second []).record? false ["min", "max"] =
      some [some first, some second] :=
    Json.record?_record false [("min", first), ("max", second)]
      (show ["min", "max"].Nodup by decide)
  simp [bounds?, members, firstRead, secondRead]

theorem policyBounds?_boundsRecord {α : Type} {read : Json → Option α} {first second : Json}
    {least greatest : α} (allow : NonFinite) (firstRead : read first = some least)
    (secondRead : read second = some greatest) :
    policyBounds? (boundsRecord first second [("allow", .string allow.name)]) read =
      some (least, greatest, allow) := by
  have members : (boundsRecord first second [("allow", .string allow.name)]).record? false
      ["min", "max", "allow"] = some [some first, some second, some (.string allow.name)] :=
    Json.record?_record false [("min", first), ("max", second), ("allow", .string allow.name)]
      (show ["min", "max", "allow"].Nodup by decide)
  have policy : (Json.string allow.name).named? NonFinite.all NonFinite.name = some allow := by
    cases allow <;> decide
  simp [policyBounds?, members, firstRead, secondRead, policy]

/-- A rule whose bounds are carried is read back, whatever the bounds are. -/
theorem ofJson?_toJson {rule : Rule} (carried : rule.IsCarried) :
    ofJson? rule.toJson = some rule := by
  cases rule with
  | byteRange least greatest =>
      change (bounds? (boundsRecord (.ofInt least.toInt) (.ofInt greatest.toInt) []) _).map _ = _
      rw [bounds?_boundsRecord (Json.integer?_ofInt8 least) (Json.integer?_ofInt8 greatest)]
      simp only [Option.map_some, Int8.ofInt_toInt]
  | integerRange least greatest =>
      change (bounds? (boundsRecord (.ofInt least.toInt) (.ofInt greatest.toInt) []) _).map _ = _
      rw [bounds?_boundsRecord (Json.integer?_ofInt32 least) (Json.integer?_ofInt32 greatest)]
      simp only [Option.map_some, Int32.ofInt_toInt]
  | longRange least greatest =>
      change (bounds? (boundsRecord (.ofInt least.toInt) (.ofInt greatest.toInt) []) _).map _ = _
      rw [bounds?_boundsRecord (Json.integer?_ofInt64 least) (Json.integer?_ofInt64 greatest)]
      simp only [Option.map_some, Int64.ofInt_toInt]
  | floatRange least greatest allow =>
      change (policyBounds? (boundsRecord (.ofSingle least) (.ofSingle greatest)
        [("allow", .string allow.name)]) _).map _ = _
      rw [policyBounds?_boundsRecord allow carried.1.single? carried.2.single?, Option.map_some]
  | doubleRange least greatest allow =>
      change (policyBounds? (boundsRecord (.ofDouble least) (.ofDouble greatest)
        [("allow", .string allow.name)]) _).map _ = _
      rw [policyBounds?_boundsRecord allow carried.1.double? carried.2.double?, Option.map_some]
  | stringLength least greatest =>
      change (bounds? (boundsRecord (.ofNat least.toNat) (.ofNat greatest.toNat) []) _).map _ = _
      rw [bounds?_boundsRecord (Json.natural?_ofNat least.toNat_lt)
        (Json.natural?_ofNat greatest.toNat_lt)]
      simp only [Option.map_some, UInt64.ofNat_toNat]
  | stringEnumerated allowed =>
      have members : (Json.record [("allowed", Json.strings allowed)]).record? false ["allowed"] =
          some [some (Json.strings allowed)] :=
        Json.record?_record false [("allowed", Json.strings allowed)]
          (show ["allowed"].Nodup by decide)
      have texts : (Json.strings allowed).list? Json.text? = some allowed :=
        Json.list?_map fun _ _ => rfl
      have content : (toJson (.stringEnumerated allowed)).choice? =
          some ("StringEnumerated", some (.record [("allowed", .strings allowed)])) := rfl
      simp [ofJson?, content, members, texts]

end Rule

namespace Constraint

/-- The constraint that is read from the text of a constraint. -/
def reread? (layout : Json.Layout) (constraint : Constraint) : Option Constraint :=
  (Json.ofText? (constraint.toJson.text layout)).bind ofJson?

theorem isWritten_toJson (constraint : Constraint) : constraint.toJson.IsWritten := by
  refine Json.isWritten_record fun member given => ?_
  simp only [List.mem_cons, List.not_mem_nil, or_false] at given
  rcases given with rfl | rfl
  · exact .string _
  · exact constraint.rule.isWritten_toJson

theorem ofJson?_toJson {constraint : Constraint} (carried : constraint.rule.IsCarried) :
    ofJson? constraint.toJson = some constraint := by
  have members : constraint.toJson.record? false ["name", "kind"] =
      some [some (.string constraint.name), some constraint.rule.toJson] :=
    Json.record?_record false
      [("name", .string constraint.name), ("kind", constraint.rule.toJson)]
      (show ["name", "kind"].Nodup by decide)
  simp [ofJson?, members, Json.text?, Rule.ofJson?_toJson carried]

/-- A constraint whose bounds are carried comes back from its text, whatever the bounds are. -/
theorem reread?_eq_some {constraint : Constraint} (carried : constraint.rule.IsCarried)
    (layout : Json.Layout) : constraint.reread? layout = some constraint := by
  rw [reread?, Json.ofText?_text constraint.isWritten_toJson, Option.bind_some,
    ofJson?_toJson carried]

end Constraint

end TableStore
