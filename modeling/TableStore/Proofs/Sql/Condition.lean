import TableStore.Proofs.Sql.Literal
import TableStore.Sql.Condition

/-!
# Conditions read back

A restriction is read by the precedence of its operators: a test takes in everything that
belongs to it, the word between the bounds of a range included, a conjunction binds more
tightly than an alternative, and parentheses group. The conjuncts of a restriction are what
stands between the conjunctions outside all parentheses.

Every condition is read back as one conjunct, a group as a formula in parentheses, so that the
conjuncts of a restriction are its conditions.
-/

namespace TableStore.Sql

/-- A formula made of tests. -/
inductive Formula where
  | test (test : Test)
  | all (parts : List Formula)
  | any (parts : List Formula)

/-- Tokens, inside the function that makes letters small if case is ignored. -/
def loweredTokens (ignoreCase : Bool) (tokens : List Token) : List Token :=
  if ignoreCase then .word "lower" :: .opening :: (tokens ++ [.closing]) else tokens

namespace Test

/-- The tokens of a test. -/
def tokens : Test → List Token
  | .isNull column => [.name column, .word "is", .word "null"]
  | .isNotNull column => [.name column, .word "is", .word "not", .word "null"]
  | .compare column operator literal => .name column :: .operator operator :: literal.tokens
  | .between column lower upper =>
      .name column :: .word "between" :: (lower.tokens ++ .word "and" :: upper.tokens)
  | .isIn ignoreCase negated column literals =>
      loweredTokens ignoreCase [.name column] ++
        ((if negated then [.word "not", .word "in", .opening] else [.word "in", .opening]) ++
          ([.comma].intercalate
              (literals.map fun literal => loweredTokens ignoreCase literal.tokens) ++
            [.closing]))
  | .like ignoreCase negated column pattern =>
      .name column :: ((if negated then [.word "not"] else []) ++
        .word (if ignoreCase then "ilike" else "like") ::
          [.string pattern, .word "escape", .string "\\"])

/-- The column of a test. -/
def column : Test → String
  | .isNull column | .isNotNull column | .compare column _ _ | .between column _ _
  | .isIn _ _ column _ | .like _ _ column _ => column

/-- The literals of a test. -/
def literals : Test → List Literal
  | .compare _ _ literal => [literal]
  | .between _ lower upper => [lower, upper]
  | .isIn _ _ _ literals => literals
  | _ => []

/-- Whether a test can be read: its literals can be stored, and a list has a member. -/
def IsReadable (test : Test) : Prop :=
  (∀ literal ∈ test.literals, literal.IsStorable) ∧
    ∀ ignoreCase negated column, test ≠ .isIn ignoreCase negated column []

/-- A test as a server reads it. -/
def canonical : Test → Test
  | .compare column operator literal => .compare column operator literal.canonical
  | .between column lower upper => .between column lower.canonical upper.canonical
  | .isIn ignoreCase negated column literals =>
      .isIn ignoreCase negated column (literals.map Literal.canonical)
  | test => test

@[simp]
theorem canonical_like (ignoreCase negated : Bool) (column pattern : String) :
    (like ignoreCase negated column pattern).canonical =
      .like ignoreCase negated column pattern :=
  rfl

end Test

theorem spells_lowered {text : String} {tokens : List Token} (ignoreCase : Bool)
    (spelled : Spells text tokens) :
    Spells (lowered ignoreCase text) (loweredTokens ignoreCase tokens) := by
  cases ignoreCase with
  | false => exact spelled
  | true =>
      have closed : Spells (text ++ ")") (tokens ++ [.closing]) := spelled.append rfl rfl
      rw [lowered, if_pos rfl, String.append_assoc]
      exact closed.after [.word "lower", .opening] rfl

theorem spells_operator (operator : Operator) :
    Spells operator.text [.operator operator] := by
  cases operator <;> rfl

/-- The text of every test has its tokens. -/
theorem spells_test (test : Test) : Spells test.text test.tokens := by
  cases test with
  | isNull column => exact (spells_quoteIdentifier column).append rfl rfl
  | isNotNull column => exact (spells_quoteIdentifier column).append rfl rfl
  | compare column operator literal =>
      have compared : Spells (operator.text ++ (" " ++ literal.text))
          ([.operator operator] ++ ([] ++ literal.tokens)) :=
        (spells_operator operator).join [] rfl rfl (spells_literal literal)
      simp only [Test.text, String.append_assoc]
      exact (spells_quoteIdentifier column).join [] rfl rfl compared
  | between column lower upper =>
      have bounds : Spells (lower.text ++ (" AND " ++ upper.text))
          (lower.tokens ++ ([.word "and"] ++ upper.tokens)) :=
        (spells_literal lower).join [.word "and"] rfl rfl (spells_literal upper)
      simp only [Test.text, String.append_assoc]
      exact (spells_quoteIdentifier column).join [.word "between"] rfl rfl bounds
  | isIn ignoreCase negated column literals =>
      have members : Spells
          (", ".intercalate (literals.map fun literal => lowered ignoreCase literal.text))
          ([.comma].intercalate
            (literals.map fun literal => loweredTokens ignoreCase literal.tokens)) :=
        Spells.intercalate [.comma] rfl rfl fun literal _ =>
          spells_lowered ignoreCase (spells_literal literal)
      have closed := members.append (b := ")") rfl (t := [.closing]) rfl
      have subject := spells_lowered ignoreCase (spells_quoteIdentifier column)
      simp only [Test.text, String.append_assoc]
      cases negated with
      | false => exact subject.join [.word "in", .opening] rfl rfl closed
      | true => exact subject.join [.word "not", .word "in", .opening] rfl rfl closed
  | like ignoreCase negated column pattern =>
      have escape : Spells (quoteString pattern ++ (" ESCAPE " ++ quoteString "\\"))
          ([.string pattern] ++ ([.word "escape"] ++ [.string "\\"])) :=
        (spells_quoteString pattern).join [.word "escape"] rfl rfl (spells_quoteString "\\")
      simp only [Test.text, String.append_assoc]
      have matched : Spells
          ((if ignoreCase then "ILIKE " else "LIKE ") ++
            (quoteString pattern ++ (" ESCAPE " ++ quoteString "\\")))
          (.word (if ignoreCase then "ilike" else "like") ::
            [.string pattern, .word "escape", .string "\\"]) := by
        cases ignoreCase with
        | false => exact escape.after [.word "like"] rfl
        | true => exact escape.after [.word "ilike"] rfl
      cases negated with
      | false => exact (spells_quoteIdentifier column).join [] rfl rfl matched
      | true => exact (spells_quoteIdentifier column).join [.word "not"] rfl rfl matched

/-- Read a member of a list of constants. -/
def readMember (ignoreCase : Bool) : TokenReader Literal := fun tokens =>
  if ignoreCase then
    match tokens with
    | .word "lower" :: .opening :: tokens => do
        let (literal, tokens) ← readLiteral tokens
        let tokens ← skip? .closing tokens
        return (literal, tokens)
    | _ => none
  else readLiteral tokens

/-- Read the members of a list of constants behind its opening parenthesis. -/
def readMembers (ignoreCase negated : Bool) (column : String) : TokenReader Test :=
  fun tokens => do
    let (literals, tokens) ← readList .comma (readMember ignoreCase) tokens
    let tokens ← skip? .closing tokens
    return (.isIn ignoreCase negated column literals, tokens)

/-- Read a test of membership behind its subject. -/
def readMembership (ignoreCase : Bool) (column : String) : TokenReader Test
  | .word "in" :: .opening :: tokens => readMembers ignoreCase false column tokens
  | .word "not" :: .word "in" :: .opening :: tokens => readMembers ignoreCase true column tokens
  | _ => none

/-- Read a pattern whose marks are escaped by backslashes. -/
def readPattern (ignoreCase negated : Bool) (column : String) : TokenReader Test
  | .string pattern :: .word "escape" :: .string "\\" :: tokens =>
      some (.like ignoreCase negated column pattern, tokens)
  | _ => none

/-- Read a comparison behind its operator. -/
def readComparison (column : String) (operator : Operator) : TokenReader Test :=
  mapRead (.compare column operator) readLiteral

/-- Read a range; the word between its bounds belongs to it. -/
def readRange (column : String) : TokenReader Test := fun tokens => do
  let (lower, tokens) ← readLiteral tokens
  let tokens ← skip? (.word "and") tokens
  let (upper, tokens) ← readLiteral tokens
  return (.between column lower upper, tokens)

/-- Read a test behind its column. -/
def readPredicate (column : String) : TokenReader Test
  | .word "is" :: .word "null" :: tokens => some (.isNull column, tokens)
  | .word "is" :: .word "not" :: .word "null" :: tokens => some (.isNotNull column, tokens)
  | .operator operator :: tokens => readComparison column operator tokens
  | .word "between" :: tokens => readRange column tokens
  | .word "like" :: tokens => readPattern false false column tokens
  | .word "ilike" :: tokens => readPattern true false column tokens
  | .word "not" :: .word "like" :: tokens => readPattern false true column tokens
  | .word "not" :: .word "ilike" :: tokens => readPattern true true column tokens
  | tokens => readMembership false column tokens

/-- Read a test. -/
def readTest : TokenReader Test
  | .name column :: tokens => readPredicate column tokens
  | .word "lower" :: .opening :: .name column :: .closing :: tokens =>
      readMembership true column tokens
  | _ => none

theorem reads_member {literal : Literal} (ignoreCase : Bool) (storable : literal.IsStorable) :
    Reads [.cast] (readMember ignoreCase) (loweredTokens ignoreCase literal.tokens)
      literal.canonical := by
  intro rest apart
  have read := reads_literal storable
  cases ignoreCase with
  | false => exact read rest apart
  | true =>
      have inside := read (.closing :: rest) (by simp)
      simp only [loweredTokens, if_true, List.cons_append, List.append_assoc, List.nil_append,
        readMember, inside, Option.bind_eq_bind, Option.bind_some, skip?_cons, pure]

theorem reads_members {literals : List Literal} (ignoreCase negated : Bool) (column : String)
    (storable : ∀ literal ∈ literals, literal.IsStorable) (nonempty : literals ≠ []) :
    Reads [] (readMembers ignoreCase negated column)
      ([.comma].intercalate
          (literals.map fun literal => loweredTokens ignoreCase literal.tokens) ++ [.closing])
      (.isIn ignoreCase negated column (literals.map Literal.canonical)) := by
  intro rest apart
  have listed := reads_readList
    (fun literal member => reads_member ignoreCase (storable literal member)) nonempty
    (by simp : Token.comma ∉ [.cast]) (.closing :: rest) (by simp)
  simp only [readMembers, List.append_assoc, List.cons_append, List.nil_append, listed,
    Option.bind_eq_bind, Option.bind_some, skip?_cons, pure]

/-- Every test whose literals can be stored reads back. -/
theorem reads_test {test : Test} (readable : test.IsReadable) :
    Reads [.cast] readTest test.tokens test.canonical := by
  intro rest apart
  obtain ⟨storable, member⟩ := readable
  cases test with
  | isNull column => rfl
  | isNotNull column => rfl
  | compare column operator literal =>
      have read := reads_literal (storable literal List.mem_cons_self)
      exact read.map (Test.compare column operator) rest apart
  | between column lower upper =>
      have lowerRead := reads_literal (storable lower List.mem_cons_self)
        (.word "and" :: (upper.tokens ++ rest)) (by simp)
      have upperRead := reads_literal (storable upper (by simp [Test.literals])) rest apart
      change readRange column ((lower.tokens ++ .word "and" :: upper.tokens) ++ rest) = _
      rw [List.append_assoc, List.cons_append]
      simp only [readRange, lowerRead, upperRead, skip?_cons, Option.bind_eq_bind,
        Option.bind_some, pure, Test.canonical]
  | isIn ignoreCase negated column literals =>
      have nonempty : literals ≠ [] := by
        rintro rfl
        exact member ignoreCase negated column rfl
      have read := reads_members ignoreCase negated column storable nonempty rest
        (apart.mono (List.nil_subset _))
      cases ignoreCase <;> cases negated <;> exact read
  | like ignoreCase negated column pattern =>
      cases ignoreCase <;> cases negated <;> rfl

namespace Condition

/-- The tests of a condition. -/
def tests : Condition → List Test
  | .test single => [single]
  | .all tests | .any tests => tests

/-- The tokens of a condition. -/
def tokens : Condition → List Token
  | .test single => single.tokens
  | .all tests => .opening :: ([.word "and"].intercalate (tests.map Test.tokens) ++ [.closing])
  | .any tests => .opening :: ([.word "or"].intercalate (tests.map Test.tokens) ++ [.closing])

/-- Whether a condition can be read: its tests can, and a group has at least two. -/
def IsReadable (condition : Condition) : Prop :=
  (∀ test ∈ condition.tests, test.IsReadable) ∧
    match condition with
    | .test _ => True
    | .all tests | .any tests => 2 ≤ tests.length

/-- The formula that a server reads for a condition. -/
def formula : Condition → Formula
  | .test single => .test single.canonical
  | .all tests => .all (tests.map fun test => .test test.canonical)
  | .any tests => .any (tests.map fun test => .test test.canonical)

end Condition

/-- The text of every condition has its tokens. -/
theorem spells_condition (condition : Condition) :
    Spells condition.text condition.tokens := by
  cases condition with
  | test single => exact spells_test single
  | all tests =>
      have conjunction : Spells (" AND ".intercalate (tests.map Test.text))
          ([.word "and"].intercalate (tests.map Test.tokens)) :=
        Spells.intercalate [.word "and"] rfl rfl fun test _ => spells_test test
      have closed := conjunction.append (b := ")") rfl (t := [.closing]) rfl
      rw [Condition.text, String.append_assoc]
      exact closed.after [.opening] rfl
  | any tests =>
      have alternative : Spells (" OR ".intercalate (tests.map Test.text))
          ([.word "or"].intercalate (tests.map Test.tokens)) :=
        Spells.intercalate [.word "or"] rfl rfl fun test _ => spells_test test
      have closed := alternative.append (b := ")") rfl (t := [.closing]) rfl
      rw [Condition.text, String.append_assoc]
      exact closed.after [.opening] rfl

/-- The tokens of the clause that restricts a statement. -/
def whereTokens : List Condition → List Token
  | [] => []
  | conditions => .word "where" :: [.word "and"].intercalate (conditions.map Condition.tokens)

theorem spells_where (conditions : List Condition) :
    Spells (whereText conditions) (whereTokens conditions) := by
  cases conditions with
  | nil => rfl
  | cons condition rest =>
      have conjunction : Spells (" AND ".intercalate ((condition :: rest).map Condition.text))
          ([.word "and"].intercalate ((condition :: rest).map Condition.tokens)) :=
        Spells.intercalate [.word "and"] rfl rfl fun condition _ => spells_condition condition
      exact conjunction.after [.word "where"] rfl

/-- One formula alone, or a group of more. -/
def combine (group : List Formula → Formula) : List Formula → Formula
  | [part] => part
  | parts => group parts

/-- Read a conjunction of formulas. -/
def readConjunction (part : TokenReader Formula) : TokenReader Formula :=
  mapRead (combine .all) (readList (.word "and") part)

/-- Read an alternative of conjunctions. -/
def readAlternative (part : TokenReader Formula) : TokenReader Formula :=
  mapRead (combine .any) (readList (.word "or") (readConjunction part))

/-- Read a test or a formula in parentheses; the number bounds how deep they stand. -/
def readPart : Nat → TokenReader Formula
  | 0, _ => none
  | depth + 1, .opening :: tokens => do
      let (formula, tokens) ← readAlternative (readPart depth) tokens
      let tokens ← skip? .closing tokens
      return (formula, tokens)
  | _ + 1, tokens => mapRead .test readTest tokens

/-- Read the conjuncts of a restriction; where nothing is restricted there are none. Behind the
conjuncts of a statement that can be read there is no alternative. -/
def readWhere : TokenReader (List Formula)
  | .word "where" :: tokens => readList (.word "and") (readPart (tokens.length + 2)) tokens
  | tokens => some ([], tokens)

theorem reads_part_test {test : Test} (depth : Nat) (readable : test.IsReadable) :
    Reads [.cast] (readPart (depth + 1)) test.tokens (.test test.canonical) := by
  intro rest apart
  have tested : readPart (depth + 1) (test.tokens ++ rest) =
      mapRead .test readTest (test.tokens ++ rest) := by
    cases test with
    | isIn ignoreCase negated column literals => cases ignoreCase <;> rfl
    | _ => rfl
  rw [tested]
  exact (reads_test readable).map Formula.test rest apart

theorem combine_map (group : List Formula → Formula) {tests : List Test}
    (several : 2 ≤ tests.length) (value : Test → Formula) :
    combine group (tests.map value) = group (tests.map value) := by
  match tests, several with
  | _ :: _ :: _, _ => rfl

/-- A formula between parentheses reads back as a part. -/
theorem reads_part_group {tokens stops : List Token} {formula : Formula} {depth : Nat}
    (reads : Reads stops (readAlternative (readPart depth)) tokens formula)
    (closes : .closing ∉ stops) :
    Reads [] (readPart (depth + 1)) (.opening :: (tokens ++ [.closing])) formula := by
  intro rest _
  have read := reads (.closing :: rest) (stopsBefore_cons.mpr closes)
  simp only [List.cons_append, List.append_assoc, List.nil_append, readPart, read,
    Option.bind_eq_bind, Option.bind_some, skip?_cons, pure]

/-- A single conjunction is an alternative. -/
theorem Reads.alternative {part : TokenReader Formula} {tokens stops : List Token}
    {formula : Formula} (reads : Reads stops (readConjunction part) tokens formula) :
    Reads (.word "or" :: stops) (readAlternative part) tokens formula :=
  reads.single.map (combine .any)

/-- Every condition reads back as one part of a conjunction. -/
theorem reads_part {condition : Condition} (depth : Nat) (readable : condition.IsReadable) :
    Reads [.cast] (readPart (depth + 2)) condition.tokens condition.formula := by
  obtain ⟨testsReadable, several⟩ := readable
  have parts := fun test member => reads_part_test depth (testsReadable test member)
  cases condition with
  | test single => exact reads_part_test _ (testsReadable single List.mem_cons_self)
  | all tests =>
      have nonempty : tests ≠ [] := by
        rintro rfl
        simp at several
      have conjunction : Reads [.word "and", .cast] (readConjunction (readPart (depth + 1)))
          ([.word "and"].intercalate (tests.map Test.tokens))
          (.all (tests.map fun test => .test test.canonical)) := by
        have whole := combine_map .all several fun test => .test test.canonical
        rw [← whole]
        exact (reads_readList parts nonempty (by simp)).map (combine .all)
      have group := reads_part_group conjunction.alternative (by simp)
      exact fun rest apart => group rest (apart.mono (List.nil_subset _))
  | any tests =>
      have nonempty : tests ≠ [] := by
        rintro rfl
        simp at several
      have conjunctions : ∀ test ∈ tests, Reads [.word "and", .cast]
          (readConjunction (readPart (depth + 1))) test.tokens (.test test.canonical) := by
        intro test member
        exact (parts test member).single.map (combine .all)
      have alternative : Reads [.word "or", .word "and", .cast]
          (readAlternative (readPart (depth + 1)))
          ([.word "or"].intercalate (tests.map Test.tokens))
          (.any (tests.map fun test => .test test.canonical)) := by
        have whole := combine_map .any several fun test => .test test.canonical
        rw [← whole]
        exact (reads_readList conjunctions nonempty (by simp)).map (combine .any)
      have group := reads_part_group alternative (by simp)
      exact fun rest apart => group rest (apart.mono (List.nil_subset _))

/-- Readable conditions are the conjuncts of the clause that is made of them. -/
theorem reads_where {conditions : List Condition}
    (readable : ∀ condition ∈ conditions, condition.IsReadable) :
    Reads [.word "where", .word "and", .cast] readWhere (whereTokens conditions)
      (conditions.map Condition.formula) := by
  intro rest apart
  cases conditions with
  | nil =>
      change readWhere rest = some ([], rest)
      unfold readWhere
      split
      · simp at apart
      · rfl
  | cons condition conditions =>
      exact reads_readList (fun condition member => reads_part _ (readable condition member))
        (by simp) (by simp) rest (apart.mono (by simp))

end TableStore.Sql
