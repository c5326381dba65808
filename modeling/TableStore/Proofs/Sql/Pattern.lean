import TableStore.Proofs.Sql.Truth
import Mathlib.Data.List.Infix

/-!
# Patterns

A pattern is a text with marks. A percent sign stands for any run of characters and an underscore
for any single one; a backslash takes the next character as it is. A text that ends in a backslash
with nothing to take is no pattern.

The pattern of a beginning matches the texts that begin so and no others, whatever marks the
beginning contains. Where case is ignored, pattern and text are folded first; a fold that leaves
the marks alone makes the pattern of a beginning into the pattern of the folded beginning.
-/

namespace TableStore.Sql

/-- What a pattern asks for at one place of a text. -/
inductive Piece where
  | run
  | single
  | character (c : Char)
deriving DecidableEq

/-- A pattern, place by place. -/
abbrev Pattern := List Piece

/-- What a character asks for that no backslash precedes. -/
def Piece.ofChar (c : Char) : Piece :=
  if c = '%' then .run else if c = '_' then .single else .character c

namespace Pattern

/-- The pattern that a text is, if it does not end in a backslash with nothing to take. -/
def ofText? : List Char → Option Pattern
  | [] => some []
  | '\\' :: [] => none
  | '\\' :: c :: text => (ofText? text).map (.character c :: ·)
  | c :: text => (ofText? text).map (.ofChar c :: ·)

/-- Whether a text matches a pattern from end to end. -/
def matchesText : Pattern → List Char → Bool
  | [], text => text.isEmpty
  | .run :: pattern, text => text.tails.any (matchesText pattern)
  | .single :: pattern, _ :: text => matchesText pattern text
  | .character c :: pattern, d :: text => d == c && matchesText pattern text
  | _ :: _, [] => false

/-- The pattern that asks for the characters of a text and then for any run. -/
def beginning (start : List Char) : Pattern :=
  start.map .character ++ [.run]

theorem ofText?_cons {c : Char} (text : List Char) (plain : isPatternMark c = false) :
    ofText? (c :: text) = (ofText? text).map (.character c :: ·) := by
  simp only [isPatternMark, Bool.or_eq_false_iff, beq_eq_false_iff_ne] at plain
  obtain ⟨⟨noPercent, noUnderscore⟩, noBackslash⟩ := plain
  have itself : Piece.ofChar c = .character c := by
    rw [Piece.ofChar, if_neg noPercent, if_neg noUnderscore]
  simp [ofText?, noBackslash, itself]

end Pattern

theorem beginningWith_cons (c : Char) (start : List Char) :
    beginningWith (c :: start) =
      (if isPatternMark c then ['\\', c] else [c]) ++ beginningWith start := by
  simp [beginningWith]

namespace Pattern

/-- Read as a pattern, the pattern of a beginning asks for its very characters. -/
theorem ofText?_beginningWith (start : List Char) :
    ofText? (beginningWith start) = some (beginning start) := by
  induction start with
  | nil => rfl
  | cons c start ih =>
      rw [beginningWith_cons]
      cases mark : isPatternMark c with
      | true =>
          change (ofText? (beginningWith start)).map (.character c :: ·) = _
          rw [ih]
          rfl
      | false =>
          change ofText? (c :: beginningWith start) = _
          rw [ofText?_cons _ mark, ih]
          rfl

/-- A text matches a beginning exactly when it begins so. -/
theorem matchesText_beginning_iff {start text : List Char} :
    (beginning start).matchesText text = true ↔ start <+: text := by
  induction start generalizing text with
  | nil =>
      refine iff_of_true (List.any_eq_true.mpr ?_) List.nil_prefix
      exact ⟨[], (List.mem_tails _ _).mpr List.nil_suffix, rfl⟩
  | cons c start ih =>
      cases text with
      | nil => simp [beginning, matchesText]
      | cons d text =>
          change (d == c && (beginning start).matchesText text) = true ↔ _
          rw [Bool.and_eq_true, beq_iff_eq, ih, List.cons_prefix_cons, eq_comm]

end Pattern

/-- Whether a fold of characters leaves the marks of patterns alone: it keeps every mark and makes
no other character into one. -/
structure KeepsMarks (fold : Char → Char) : Prop where
  kept : ∀ c, isPatternMark c = true → fold c = c
  apart : ∀ c, isPatternMark (fold c) = true → isPatternMark c = true

theorem KeepsMarks.isPatternMark_eq {fold : Char → Char} (keeps : KeepsMarks fold) (c : Char) :
    isPatternMark (fold c) = isPatternMark c := by
  rw [Bool.eq_iff_iff]
  refine ⟨keeps.apart c, fun mark => ?_⟩
  rw [keeps.kept c mark]
  exact mark

/-- The small forms of ASCII letters leave the marks alone. -/
theorem keepsMarks_toLower : KeepsMarks Char.toLower where
  kept c mark := by
    simp only [isPatternMark, Bool.or_eq_true, beq_iff_eq] at mark
    rcases mark with (rfl | rfl) | rfl <;> rfl
  apart c mark := by
    unfold Char.toLower at mark
    split at mark
    · rename_i capital
      simp [isPatternMark, Char.ext_iff, ← UInt32.toNat_inj, UInt32.le_iff_toNat_le] at mark capital
      omega
    · exact mark

/-- The characters of a text, folded if case is ignored. -/
def caseFolded (fold : Char → Char) (ignoreCase : Bool) (text : String) : List Char :=
  if ignoreCase then text.toList.map fold else text.toList

section Folds

variable {fold : Char → Char} (keeps : KeepsMarks fold)

include keeps in
/-- The folded pattern of a beginning is the pattern of the folded beginning. -/
theorem map_beginningWith (start : List Char) :
    (beginningWith start).map fold = beginningWith (start.map fold) := by
  have escape : fold '\\' = '\\' := keeps.kept _ rfl
  have percent : fold '%' = '%' := keeps.kept _ rfl
  induction start with
  | nil => simp [beginningWith, percent]
  | cons c start ih =>
      rw [List.map_cons, beginningWith_cons, beginningWith_cons, keeps.isPatternMark_eq,
        List.map_append, ih]
      cases isPatternMark c <;> simp [escape]

include keeps in
theorem caseFolded_pattern (ignoreCase : Bool) (start : String) :
    caseFolded fold ignoreCase (Value.string start).pattern =
      beginningWith (caseFolded fold ignoreCase start) := by
  cases ignoreCase with
  | false => simp [caseFolded, Value.pattern, Value.asString?]
  | true => simp [caseFolded, Value.pattern, Value.asString?, map_beginningWith keeps]

end Folds

/-- The truth of the statement that a cell matches a pattern. -/
def Pattern.truth (pattern : Pattern) (fold : Char → Char) (ignoreCase : Bool) :
    Option String → Truth
  | none => .unknown
  | some text => .ofBool (pattern.matchesText (caseFolded fold ignoreCase text))

/-- The truth of a pattern test of a column on the cell of that column, if its text is a pattern. -/
def Test.patternTruth? (fold : Char → Char) (column : String) (cell : Option String) :
    Test → Option Truth
  | .like ignoreCase negated own text =>
      if own = column then do
        let pattern ← Pattern.ofText? (caseFolded fold ignoreCase text)
        return .negateIf negated (pattern.truth fold ignoreCase cell)
      else none
  | _ => none

end TableStore.Sql
