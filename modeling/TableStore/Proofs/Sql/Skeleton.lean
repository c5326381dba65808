import TableStore.Proofs.Sql.Condition

/-!
# What tokens show of constants

Without the content of strings and the value of integers, the tokens of a constant show nothing
but its kind. So the tokens of a condition are, up to these contents, those of its skeleton, in
which every constant stands for its kind: no content of a constant adds a token, takes one away
or turns one into another.
-/

namespace TableStore.Sql

open Binary Calendar

/-- A token without the content of a constant. -/
def Token.kind : Token → Token
  | .string _ => .string ""
  | .integer _ => .integer 0
  | token => token

/-- The date of a skeleton. -/
def sampleDate : Date := ⟨1, 1, 1, rfl⟩

/-- The time of a skeleton. -/
def sampleTime : Time := ⟨0, 0, 0, 0, rfl⟩

namespace Literal

/-- A constant of the same kind that does not depend on the content. -/
def skeleton : Literal → Literal
  | .string _ => .string ""
  | .integer _ => .integer 0
  | .real _ => .real (.nan .single)
  | .double _ => .double (.nan .double)
  | .bytes _ => .bytes []
  | .date _ => .date sampleDate
  | .time _ => .time sampleTime
  | .timestamp _ _ => .timestamp sampleDate sampleTime
  | literal => literal

theorem kinds_skeleton (literal : Literal) :
    literal.skeleton.tokens.map Token.kind = literal.tokens.map Token.kind := by
  cases literal with
  | boolean truth => rfl
  | _ => simp only [skeleton, tokens, List.map_cons, List.map_nil, Token.kind]

end Literal

theorem map_intercalate {α β : Type} (f : α → β) (separator : List α) (pieces : List (List α)) :
    (separator.intercalate pieces).map f =
      (separator.map f).intercalate (pieces.map (List.map f)) := by
  induction pieces with
  | nil => rfl
  | cons piece pieces ih =>
      cases pieces with
      | nil => simp
      | cons next pieces =>
          simp only [List.map_cons, List.intercalate_cons_cons, List.map_append] at ih ⊢
          rw [ih]

theorem map_kind_loweredTokens (ignoreCase : Bool) (tokens : List Token) :
    (loweredTokens ignoreCase tokens).map Token.kind =
      loweredTokens ignoreCase (tokens.map Token.kind) := by
  cases ignoreCase <;> simp [loweredTokens, Token.kind]

/-- A test of the same form that does not depend on the contents of constants. -/
def Test.skeleton : Test → Test
  | .compare column operator literal => .compare column operator literal.skeleton
  | .between column lower upper => .between column lower.skeleton upper.skeleton
  | .isIn ignoreCase negated column literals =>
      .isIn ignoreCase negated column (literals.map Literal.skeleton)
  | .like ignoreCase negated column _ => .like ignoreCase negated column ""
  | test => test

theorem Test.kinds_skeleton (test : Test) :
    test.skeleton.tokens.map Token.kind = test.tokens.map Token.kind := by
  cases test with
  | isNull column => rfl
  | isNotNull column => rfl
  | compare column operator literal =>
      simp only [skeleton, tokens, List.map_cons, literal.kinds_skeleton]
  | between column lower upper =>
      simp only [skeleton, tokens, List.map_cons, List.map_append, lower.kinds_skeleton,
        upper.kinds_skeleton]
  | isIn ignoreCase negated column literals =>
      simp only [skeleton, tokens, List.map_append, map_intercalate, List.map_map,
        Function.comp_def, map_kind_loweredTokens, Literal.kinds_skeleton]
  | like ignoreCase negated column pattern =>
      cases negated <;> rfl

namespace Condition

/-- A condition of the same form that does not depend on the contents of constants. -/
def skeleton : Condition → Condition
  | .test single => .test single.skeleton
  | .all tests => .all (tests.map Test.skeleton)
  | .any tests => .any (tests.map Test.skeleton)

/-- Up to the contents of constants a condition has the tokens of its skeleton. -/
theorem kinds_skeleton (condition : Condition) :
    condition.skeleton.tokens.map Token.kind = condition.tokens.map Token.kind := by
  cases condition with
  | test single => exact single.kinds_skeleton
  | all tests | any tests =>
      simp only [skeleton, tokens, List.map_cons, List.map_append, map_intercalate,
        List.map_map, Function.comp_def, Test.kinds_skeleton]

end Condition

/-- Up to the contents of constants, clauses of the same form have the same tokens. -/
theorem kinds_whereTokens_eq {first second : List Condition}
    (sameForm : first.map Condition.skeleton = second.map Condition.skeleton) :
    (whereTokens first).map Token.kind = (whereTokens second).map Token.kind := by
  have kinds : ∀ conditions : List Condition,
      (conditions.map Condition.tokens).map (List.map Token.kind) =
        ((conditions.map Condition.skeleton).map Condition.tokens).map (List.map Token.kind) := by
    intro conditions
    simp only [List.map_map, Function.comp_def, Condition.kinds_skeleton]
  cases first with
  | nil =>
      cases second with
      | nil => rfl
      | cons => simp at sameForm
  | cons condition first =>
      cases second with
      | nil => simp at sameForm
      | cons other second =>
          have same := kinds (condition :: first)
          rw [sameForm, ← kinds (other :: second)] at same
          change Token.word "where" :: ([Token.word "and"].intercalate _).map Token.kind =
            Token.word "where" :: ([Token.word "and"].intercalate _).map Token.kind
          rw [map_intercalate, map_intercalate, same]

end TableStore.Sql
