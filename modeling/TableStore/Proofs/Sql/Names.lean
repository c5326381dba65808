import TableStore.Proofs.Sql.Definition

/-!
# What quoted names stand for

A quoted name of a statement is that of a schema, of a table or of a column, and the tokens
around it tell which. A name before a point, or behind the words that create a schema, is that of
a schema. A name behind a point, or behind a word that a table follows, is that of a table. Every
other name is that of a column.

Whatever constants a statement contains, it names one schema and at most one table; only the
statement that creates a schema names no table. A text without quotation marks names nothing.
-/

namespace TableStore.Sql

/-- What a quoted name stands for. -/
inductive Standing where
  | schema
  | table
  | column
deriving DecidableEq, Repr

/-- The words that the name of a table follows. -/
def tableWords : List String :=
  ["from", "join", "into", "update", "table"]

/-- What a name behind a token stands for, given what it would stand for before the token. The
words of a condition on existence come between a name and the word that announces it. -/
def Token.announces (announced : Standing) : Token → Standing
  | .point => .table
  | .word spelled =>
      if spelled = "schema" then .schema
      else if spelled ∈ tableWords then .table
      else if spelled ∈ ["if", "not", "exists"] then announced
      else .column
  | _ => .column

/-- The names among tokens, each with what it stands for. -/
def standings (announced : Standing) : List Token → List (Standing × String)
  | [] => []
  | .name name :: rest =>
      (if rest.head? = some .point then .schema else announced, name) :: standings .column rest
  | token :: rest => standings (token.announces announced) rest

/-- The names among tokens that stand for what is asked. -/
def namesOf (standing : Standing) (tokens : List Token) : List String :=
  ((standings .column tokens).filter fun entry => entry.1 = standing).map Prod.snd

/-- The names in a text that stand for what is asked. -/
def namesIn (standing : Standing) (text : String) : List String :=
  ((tokenize text.toList).map (namesOf standing)).getD []

theorem namesIn_of_spells {text : String} {tokens : List Token} (spelled : Spells text tokens)
    (standing : Standing) : namesIn standing text = namesOf standing tokens := by
  rw [namesIn, spelled, Option.map_some, Option.getD_some]

/-- The name that a token is. -/
def Token.name? : Token → Option String
  | .name spelled => some spelled
  | _ => none

/-- The quoted names in a text. -/
def quotedNames (text : String) : List String :=
  ((tokenize text.toList).getD []).filterMap Token.name?

/-- Every quoted name stands for something, and nothing else does. -/
theorem map_snd_standings (announced : Standing) (tokens : List Token) :
    (standings announced tokens).map Prod.snd = tokens.filterMap Token.name? := by
  induction tokens generalizing announced with
  | nil => rfl
  | cons token rest ih =>
      cases token with
      | name spelled => rw [standings, List.map_cons, ih]; rfl
      | _ => exact ih _

theorem mem_quotedNames_iff {name text : String} :
    name ∈ quotedNames text ↔ ∃ standing, name ∈ namesIn standing text := by
  unfold quotedNames namesIn namesOf
  cases tokenize text.toList with
  | none => simp
  | some tokens =>
      rw [Option.getD_some, ← map_snd_standings .column]
      simp

/-! ## Texts without quoted names -/

/-- Whether no name is being read. -/
def Lexing.IsNameless : Lexing → Prop
  | .name _ | .nameMark _ => False
  | _ => True

/-- Whether tokens and a state between two characters are without a name. -/
def Nameless (reached : List Token × Lexing) : Prop :=
  reached.1.filterMap Token.name? = [] ∧ reached.2.IsNameless

namespace Lexing

variable {state : Lexing} {c : Char}

theorem isNameless_of_extend? (nameless : state.IsNameless) {next : Lexing}
    (extended : state.extend? c = some next) : next.IsNameless := by
  cases state with
  | between => cases extended
  | name | nameMark => cases nameless
  | refused =>
      cases extended
      trivial
  | backslash read =>
      obtain ⟨escaped, -, rfl⟩ := Option.map_eq_some_iff.mp extended
      trivial
  | _ =>
      simp only [extend?] at extended
      repeat' split at extended
      all_goals cases extended
      all_goals trivial

theorem name?_tokens? (nameless : state.IsNameless) {tokens : List Token}
    (ended : state.tokens? = some tokens) : tokens.filterMap Token.name? = [] := by
  cases state with
  | name | nameMark => cases nameless
  | number negative read =>
      obtain ⟨number, -, rfl⟩ := Option.map_eq_some_iff.mp ended
      rfl
  | sign read =>
      obtain ⟨token, signed, rfl⟩ := Option.map_eq_some_iff.mp ended
      unfold signToken? at signed
      repeat' split at signed
      all_goals cases signed
      all_goals rfl
  | _ => cases ended <;> rfl

theorem nameless_start? (unquoted : c ≠ '"') {reached : List Token × Lexing}
    (begun : start? c = some reached) : Nameless reached := by
  unfold start? at begun
  repeat' split at begun
  all_goals cases begun
  all_goals first | exact ⟨rfl, trivial⟩ | contradiction

theorem nameless_step? (nameless : state.IsNameless) (unquoted : c ≠ '"')
    {reached : List Token × Lexing} (stepped : state.step? c = some reached) :
    Nameless reached := by
  unfold step? at stepped
  split at stepped
  · rename_i next extended
    cases stepped
    exact ⟨rfl, isNameless_of_extend? nameless extended⟩
  · obtain ⟨ended, tokens, begun⟩ := Option.bind_eq_some_iff.mp stepped
    obtain ⟨⟨first, next⟩, started, rfl⟩ := Option.map_eq_some_iff.mp begun
    obtain ⟨firstNameless, nextNameless⟩ := nameless_start? unquoted started
    refine ⟨?_, nextNameless⟩
    rw [List.filterMap_append, name?_tokens? nameless tokens, List.nil_append]
    exact firstNameless

/-- Where no quotation mark is read, no name is. -/
theorem nameless_run? {text : List Char} (unquoted : '"' ∉ text) (nameless : state.IsNameless)
    {reached : List Token × Lexing} (run : state.run? text = some reached) : Nameless reached := by
  induction text generalizing state reached with
  | nil =>
      cases run
      exact ⟨rfl, nameless⟩
  | cons c rest ih =>
      rw [List.mem_cons, not_or] at unquoted
      obtain ⟨⟨tokens, next⟩, stepped, later⟩ := Option.bind_eq_some_iff.mp run
      obtain ⟨⟨more, final⟩, ran, rfl⟩ := Option.map_eq_some_iff.mp later
      obtain ⟨first, nextNameless⟩ := nameless_step? nameless (Ne.symm unquoted.1) stepped
      obtain ⟨second, finalNameless⟩ := ih unquoted.2 nextNameless ran
      refine ⟨?_, finalNameless⟩
      rw [List.filterMap_append, first, second]
      rfl

end Lexing

/-- A text without quotation marks has no quoted names. -/
theorem quotedNames_eq_nil {text : String} (unquoted : '"' ∉ text.toList) :
    quotedNames text = [] := by
  have between : Lexing.between.IsNameless := trivial
  unfold quotedNames tokenize
  cases run : Lexing.between.run? text.toList with
  | none => rfl
  | some reached =>
      obtain ⟨tokens, state⟩ := reached
      obtain ⟨first, nameless⟩ := Lexing.nameless_run? unquoted between run
      cases ended : state.tokens? with
      | none => simp [ended]
      | some last => simp [ended, first, Lexing.name?_tokens? nameless ended]

theorem namesIn_eq_nil {text : String} (unquoted : '"' ∉ text.toList) (standing : Standing) :
    namesIn standing text = [] := by
  have none := quotedNames_eq_nil unquoted
  rw [List.eq_nil_iff_forall_not_mem] at none ⊢
  exact fun name named => none name (mem_quotedNames_iff.mpr ⟨standing, named⟩)

/-! ## Tokens that name columns -/

/-- Whether a token announces columns only and, if it is a name, is one of the given columns. -/
def Token.IsPlain (known : List String) : Token → Prop
  | .name column => column ∈ known
  | .point => False
  | .word spelled => spelled ≠ "schema" ∧ spelled ∉ tableWords
  | _ => True

attribute [local simp] Token.IsPlain tableWords

variable {known : List String}

theorem Token.announces_of_isPlain {token : Token}
    (plain : token.IsPlain known) : token.announces .column = .column := by
  cases token with
  | point => cases plain
  | word spelled =>
      simp only [announces, if_neg plain.1, if_neg plain.2]
      split <;> rfl
  | _ => rfl

/-- Plain tokens name columns, and what follows them is read as if they were not there. -/
theorem standings_append {first : List Token} (second : List Token)
    (plain : ∀ token ∈ first, token.IsPlain known) (apart : second.head? ≠ some .point) :
    ∃ names : List String, (∀ name ∈ names, name ∈ known) ∧
      standings .column (first ++ second) =
        names.map (Prod.mk Standing.column) ++ standings .column second := by
  -- a name is a column only because no point follows it, within the tokens or right behind them
  induction first with
  | nil => exact ⟨[], by simp, rfl⟩
  | cons token first ih =>
      have tokenPlain := plain token List.mem_cons_self
      have restPlain : ∀ later ∈ first, later.IsPlain known := fun later member =>
        plain later (List.mem_cons_of_mem token member)
      obtain ⟨names, within, rest⟩ := ih restPlain
      cases token with
      | name name =>
          have noPoint : (first ++ second).head? ≠ some .point := by
            cases first with
            | nil => exact apart
            | cons next first =>
                intro point
                cases Option.some.inj point
                exact restPlain Token.point List.mem_cons_self
          refine ⟨name :: names, List.forall_mem_cons.mpr ⟨tokenPlain, within⟩, ?_⟩
          rw [List.cons_append, standings, if_neg noPoint, rest]
          rfl
      | word word =>
          refine ⟨names, within, ?_⟩
          rw [List.cons_append, standings, Token.announces_of_isPlain tokenPlain, rest]
          rintro _ ⟨⟩
      | point => cases tokenPlain
      | _ => exact ⟨names, within, rest⟩

/-- Whether tokens name a schema and tables, and columns only among the given ones. -/
structure NamesOnly (schema : String) (tables known : List String) (tokens : List Token) :
    Prop where
  schemas : namesOf .schema tokens = [schema]
  tables : namesOf .table tokens = tables
  columns : ∀ name ∈ namesOf .column tokens, name ∈ known

/-- Where plain tokens stand around a table, it alone is named besides columns. -/
theorem namesOnly_around (lead : List Token) (word : String) (table : TableName)
    {rest : List Token}
    (leadPlain : ∀ token ∈ lead, token.IsPlain known)
    (restPlain : ∀ token ∈ rest, token.IsPlain known) :
    NamesOnly table.schema [table.table] known
      (lead ++ .word word :: (table.tokens ++ rest)) := by
  have noPoint : rest.head? ≠ some .point := by
    intro point
    exact restPlain .point (List.mem_of_mem_head? point)
  obtain ⟨before, beforeWithin, beforeEq⟩ := standings_append
    (.word word :: (table.tokens ++ rest)) leadPlain (by simp)
  obtain ⟨behind, behindWithin, behindEq⟩ := standings_append [] restPlain (by simp)
  -- the point between the two names of the table is the only one
  have named : standings .column (lead ++ .word word :: (table.tokens ++ rest)) =
      before.map (Prod.mk Standing.column) ++ (.schema, table.schema) :: (.table, table.table) ::
        behind.map (Prod.mk Standing.column) := by
    rw [List.append_nil, standings, List.append_nil] at behindEq
    rw [beforeEq, ← behindEq]
    simp [TableName.tokens, standings, Token.announces, noPoint]
  constructor
  · simp [namesOf, named, List.filter_map, Function.comp_def]
  · simp [namesOf, named, List.filter_map, Function.comp_def]
  · intro name member
    simp only [namesOf, named, List.filter_append, List.filter_map, Function.comp_def,
      List.map_append, List.map_map] at member
    simp at member
    exact member.elim (beforeWithin name) (behindWithin name)

/-- What holds of separators and of pieces holds of pieces with separators between them. -/
theorem forall_mem_intercalate {α : Type} {P : α → Prop} {separator : List α}
    {pieces : List (List α)} (between : ∀ x ∈ separator, P x)
    (each : ∀ piece ∈ pieces, ∀ x ∈ piece, P x) : ∀ x ∈ separator.intercalate pieces, P x := by
  induction pieces with
  | nil => simp
  | cons piece pieces ih =>
      have rest := ih fun other member => each other (List.mem_cons_of_mem piece member)
      cases pieces with
      | nil => simpa using each piece List.mem_cons_self
      | cons next pieces =>
          rw [List.intercalate_cons_cons, List.forall_mem_append, List.forall_mem_append]
          exact ⟨⟨each piece List.mem_cons_self, between⟩, rest⟩

/-! ## Constants and conditions -/

theorem Literal.isPlain_tokens (literal : Literal) :
    ∀ token ∈ literal.tokens, token.IsPlain known := by
  cases literal with
  | boolean truth => cases truth <;> simp [tokens]
  | _ => simp [tokens]

theorem isPlain_loweredTokens (ignoreCase : Bool) {tokens : List Token}
    (plain : ∀ token ∈ tokens, token.IsPlain known) :
    ∀ token ∈ loweredTokens ignoreCase tokens, token.IsPlain known := by
  cases ignoreCase with
  | false => exact plain
  | true => simpa [loweredTokens, or_imp, forall_and] using plain

theorem Test.isPlain_tokens {test : Test} (within : test.column ∈ known) :
    ∀ token ∈ test.tokens, token.IsPlain known := by
  cases test with
  | isNull column | isNotNull column => simpa [tokens, Test.column] using within
  | compare column operator literal =>
      simp only [tokens, List.forall_mem_cons]
      exact ⟨within, trivial, literal.isPlain_tokens⟩
  | between column lower upper =>
      simp only [tokens, List.forall_mem_cons, List.forall_mem_append]
      exact ⟨within, by simp, lower.isPlain_tokens, by simp, upper.isPlain_tokens⟩
  | isIn ignoreCase negated column literals =>
      have members : ∀ token ∈ [Token.comma].intercalate
          (literals.map fun literal => loweredTokens ignoreCase literal.tokens),
          token.IsPlain known := by
        apply forall_mem_intercalate
        · simp
        · rw [List.forall_mem_map]
          exact fun literal _ => isPlain_loweredTokens ignoreCase literal.isPlain_tokens
      have subject : ∀ token ∈ [Token.name column], token.IsPlain known := by
        simpa [Test.column] using within
      simp only [tokens, List.forall_mem_append]
      refine ⟨isPlain_loweredTokens ignoreCase subject, ?_, members, by simp⟩
      cases negated <;> simp
  | like ignoreCase negated column pattern =>
      simp only [tokens, List.forall_mem_cons, List.forall_mem_append]
      refine ⟨within, ?_, ?_, by simp⟩
      · cases negated <;> simp
      · cases ignoreCase <;> simp

/-- The columns of a condition. -/
def Condition.columns : Condition → List String
  | .test single => [single.column]
  | .all tests | .any tests => tests.map Test.column

theorem Condition.isPlain_tokens {condition : Condition}
    (within : ∀ column ∈ condition.columns, column ∈ known) :
    ∀ token ∈ condition.tokens, token.IsPlain known := by
  cases condition with
  | test single => exact Test.isPlain_tokens (within _ List.mem_cons_self)
  | all tests | any tests =>
      have parts : ∀ tokens ∈ tests.map Test.tokens, ∀ token ∈ tokens, token.IsPlain known := by
        rw [List.forall_mem_map]
        exact fun test member => Test.isPlain_tokens (within _ (List.mem_map_of_mem member))
      simp only [tokens, List.forall_mem_cons, List.forall_mem_append]
      exact ⟨trivial, forall_mem_intercalate (by simp) parts, trivial, by simp⟩

/-- The columns of conditions. -/
def conditionColumns (conditions : List Condition) : List String :=
  conditions.flatMap Condition.columns

theorem isPlain_whereTokens {conditions : List Condition}
    (within : ∀ column ∈ conditionColumns conditions, column ∈ known) :
    ∀ token ∈ whereTokens conditions, token.IsPlain known := by
  have parts : ∀ tokens ∈ conditions.map Condition.tokens, ∀ token ∈ tokens,
      token.IsPlain known := by
    rw [List.forall_mem_map]
    exact fun condition member => Condition.isPlain_tokens fun column named =>
      within column (List.mem_flatMap.mpr ⟨condition, member, named⟩)
  cases conditions with
  | nil => simp [whereTokens]
  | cons condition conditions =>
      rw [whereTokens, List.forall_mem_cons]
      · exact ⟨by simp, forall_mem_intercalate (by simp) parts⟩
      · simp

theorem isPlain_nameTokens {names : List String} (within : ∀ name ∈ names, name ∈ known) :
    ∀ token ∈ nameTokens names, token.IsPlain known :=
  forall_mem_intercalate (by simp) (by simpa using within)

/-! ## Statements about rows -/

namespace RowStatement

/-- The table of a statement about rows. -/
def table : RowStatement → TableName
  | .count table _ | .select _ table _ _ | .delete table _ | .update table _ _
  | .insert table _ _ => table

/-- The columns that a statement about rows names. -/
def columns : RowStatement → List String
  | .count _ conditions | .delete _ conditions => conditionColumns conditions
  | .select columns _ conditions order => columns ++ (conditionColumns conditions ++ order)
  | .update _ assignments conditions => assignments.map Prod.fst ++ conditionColumns conditions
  | .insert _ columns _ => columns

/-- A statement about rows names its table, and else only columns. -/
theorem namesOnly (statement : RowStatement) :
    NamesOnly statement.table.schema [statement.table.table] statement.columns
      statement.tokens := by
  cases statement with
  | count table conditions =>
      exact namesOnly_around [.word "select", .word "count", .opening, .star, .closing]
        "from" table (by simp) (isPlain_whereTokens fun _ named => named)
  | select columns table conditions order =>
      refine namesOnly_around (.word "select" :: nameTokens columns) "from" table ?_ ?_
      · rw [List.forall_mem_cons]
        exact ⟨by simp, isPlain_nameTokens fun _ named => List.mem_append_left _ named⟩
      · rw [List.forall_mem_append]
        refine ⟨isPlain_whereTokens fun _ named => by simp [RowStatement.columns, named], ?_⟩
        cases order with
        | nil => simp [orderTokens]
        | cons name names =>
            simp only [orderTokens, List.forall_mem_cons]
            exact ⟨by simp, by simp, isPlain_nameTokens fun _ named =>
              List.mem_append_right _ (List.mem_append_right _ named)⟩
  | delete table conditions =>
      exact namesOnly_around [.word "delete"] "from" table (by simp)
        (isPlain_whereTokens fun _ named => named)
  | update table assignments conditions =>
      refine namesOnly_around [] "update" table (by simp) ?_
      rw [List.forall_mem_cons, List.forall_mem_append]
      refine ⟨by simp, forall_mem_intercalate (by simp) ?_,
        isPlain_whereTokens fun _ named => List.mem_append_right _ named⟩
      simp only [List.forall_mem_map, assignmentTokens, List.forall_mem_cons]
      exact fun assignment member =>
        ⟨List.mem_append_left _ (List.mem_map_of_mem member), trivial,
          assignment.2.isPlain_tokens⟩
  | insert table columns rows =>
      refine namesOnly_around [.word "insert"] "into" table (by simp) ?_
      simp only [List.forall_mem_cons, List.forall_mem_append]
      refine ⟨trivial, isPlain_nameTokens fun _ named => named, trivial, by simp,
        forall_mem_intercalate (by simp) ?_⟩
      simp only [List.forall_mem_map, rowTokens, List.forall_mem_cons, List.forall_mem_append]
      refine fun row _ => ⟨trivial, forall_mem_intercalate (by simp) ?_, trivial, by simp⟩
      rw [List.forall_mem_map]
      exact fun literal _ => literal.isPlain_tokens

end RowStatement

/-! ## Statements about structure -/

theorem isPlain_typeTokens (type : ValueType) : ∀ token ∈ type.tokens, token.IsPlain known := by
  cases type <;> simp [ValueType.tokens]

theorem Column.isPlain_tokens {column : Column} (within : column.name ∈ known) :
    ∀ token ∈ column.tokens, token.IsPlain known := by
  simp only [tokens, List.forall_mem_cons, List.forall_mem_append]
  refine ⟨within, isPlain_typeTokens column.type, ?_⟩
  cases column.isNullable <;> simp

theorem isPlain_tableParts {columns : List Column} {key : List String}
    (within : ∀ name ∈ columns.map (·.name) ++ key, name ∈ known) :
    ∀ part ∈ TablePart.ofTable columns key, ∀ token ∈ part.tokens, token.IsPlain known := by
  rw [TablePart.ofTable, List.forall_mem_append, List.forall_mem_map]
  rw [List.forall_mem_append, List.forall_mem_map] at within
  refine ⟨fun column member => Column.isPlain_tokens (within.1 column member), ?_⟩
  by_cases keyless : key = []
  · simp [keyless]
  · rw [if_neg keyless, List.forall_mem_singleton]
    simp only [TablePart.tokens, List.forall_mem_cons, List.forall_mem_append]
    exact ⟨by simp, by simp, trivial, isPlain_nameTokens within.2, trivial, by simp⟩

namespace Definition

/-- The schema that a statement about structure names. -/
def schema : Definition → String
  | .createSchema schema => schema
  | .createTable table _ _ | .addColumn table _ | .alterType table _ _ | .setNullable table _ _
  | .addPrimaryKey table _ => table.schema

/-- The tables that a statement about structure names: none, or one. -/
def tables : Definition → List String
  | .createSchema _ => []
  | .createTable table _ _ | .addColumn table _ | .alterType table _ _ | .setNullable table _ _
  | .addPrimaryKey table _ => [table.table]

/-- The columns that a statement about structure names. -/
def columns : Definition → List String
  | .createSchema _ => []
  | .createTable _ columns key => columns.map (·.name) ++ key
  | .addColumn _ column => [column.name]
  | .alterType _ column _ | .setNullable _ column _ => [column]
  | .addPrimaryKey _ key => key

/-- A statement that alters a table names the table, and else only columns. -/
theorem namesOnly_alteration (table : TableName) {tokens : List Token}
    (plain : ∀ token ∈ tokens, token.IsPlain known) :
    NamesOnly table.schema [table.table] known
      (.word "alter" :: .word "table" :: (table.tokens ++ tokens)) :=
  namesOnly_around [.word "alter"] "table" table (by simp) plain

/-- A statement about structure names its schema and its table, and else only columns. -/
theorem namesOnly (definition : Definition) :
    NamesOnly definition.schema definition.tables definition.columns definition.tokens := by
  cases definition with
  | createSchema schema => exact ⟨rfl, rfl, by simp [namesOf, tokens, standings, Token.announces]⟩
  | createTable table columns key =>
      refine namesOnly_around [.word "create"] "table" table (by simp) ?_
      simp only [List.forall_mem_cons, List.forall_mem_append]
      refine ⟨trivial, forall_mem_intercalate (by simp) ?_, trivial, by simp⟩
      rw [List.forall_mem_map]
      exact isPlain_tableParts fun _ named => named
  | addColumn table column =>
      apply namesOnly_alteration
      simp only [List.forall_mem_cons]
      exact ⟨by simp, by simp, Column.isPlain_tokens List.mem_cons_self⟩
  | alterType table column type =>
      apply namesOnly_alteration
      simp only [List.forall_mem_cons, List.forall_mem_append]
      exact ⟨by simp, by simp, List.mem_cons_self, by simp, isPlain_typeTokens type, by simp,
        List.mem_cons_self, trivial, isPlain_typeTokens type⟩
  | setNullable table column isNullable =>
      apply namesOnly_alteration
      cases isNullable <;> simp [columns]
  | addPrimaryKey table key =>
      apply namesOnly_alteration
      simp only [List.forall_mem_cons, List.forall_mem_append]
      exact ⟨by simp, by simp, by simp, trivial, isPlain_nameTokens fun _ named => named, trivial,
        by simp⟩

end Definition

end TableStore.Sql
