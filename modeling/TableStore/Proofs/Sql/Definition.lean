import TableStore.Proofs.Sql.Statement

/-!
# Statements about structure read back

What a server reads in a statement that creates or alters structure. A native type may have
several words, a column goes on with its nullability, and between the parentheses of a table
stand its columns and behind them at most one key.

Every statement whose lists have members is read as itself, so what a server does with the text
is what the statement says.
-/

namespace TableStore

open Sql

/-- The tokens of a native type. -/
def ValueType.tokens : ValueType → List Token
  | .string => [.word "text"]
  | .boolean => [.word "boolean"]
  | .byte => [.word "smallint"]
  | .integer => [.word "integer"]
  | .long => [.word "bigint"]
  | .float => [.word "real"]
  | .double => [.word "double", .word "precision"]
  | .blob => [.word "bytea"]
  | .localDate => [.word "date"]
  | .localTime => [.word "time", .word "without", .word "time", .word "zone"]
  | .localDateTime => [.word "timestamp", .word "without", .word "time", .word "zone"]

namespace Sql

/-- The tokens of the definition of a column. -/
def Column.tokens (column : Column) : List Token :=
  .name column.name ::
    (column.type.tokens ++ if column.isNullable then [] else [.word "not", .word "null"])

/-- A part between the parentheses of a table definition. -/
inductive TablePart where
  | ofColumn (column : Column)
  | ofKey (names : List String)

namespace TablePart

/-- The text of a part. -/
def text : TablePart → String
  | .ofColumn column => column.text
  | .ofKey names => "PRIMARY KEY (" ++ nameList names ++ ")"

/-- The tokens of a part. -/
def tokens : TablePart → List Token
  | .ofColumn column => column.tokens
  | .ofKey names =>
      .word "primary" :: .word "key" :: .opening :: (nameTokens names ++ [.closing])

/-- The parts of a table: its columns, and its key if it has one. -/
def ofTable (columns : List Column) (key : List String) : List TablePart :=
  columns.map .ofColumn ++ if key = [] then [] else [.ofKey key]

/-- The columns and the key of a table with the given parts, of which at most the last is a
key. -/
def assemble? : List TablePart → Option (List Column × List String)
  | [] => some ([], [])
  | [.ofKey names] => some ([], names)
  | .ofColumn column :: rest =>
      (assemble? rest).map fun (columns, key) => (column :: columns, key)
  | .ofKey _ :: _ => none

theorem assemble?_ofTable (columns : List Column) (key : List String) :
    assemble? (ofTable columns key) = some (columns, key) := by
  induction columns with
  | nil =>
      by_cases keyless : key = []
      · rw [ofTable, if_pos keyless, keyless]
        rfl
      · rw [ofTable, if_neg keyless]
        rfl
  | cons column columns ih =>
      rw [ofTable, List.map_cons, List.cons_append, ← ofTable, assemble?, ih]
      rfl

theorem map_text_ofTable (columns : List Column) (key : List String) :
    (ofTable columns key).map text = tableParts columns key := by
  by_cases keyless : key = [] <;> simp [ofTable, tableParts, text, keyless]

end TablePart

namespace Definition

/-- The tokens of a statement about structure. -/
def tokens : Definition → List Token
  | .createSchema schema =>
      [.word "create", .word "schema", .word "if", .word "not", .word "exists", .name schema]
  | .createTable table columns key =>
      .word "create" :: .word "table" :: (table.tokens ++ .opening ::
        ([.comma].intercalate ((TablePart.ofTable columns key).map TablePart.tokens) ++
          [.closing]))
  | .addColumn table column =>
      .word "alter" :: .word "table" :: (table.tokens ++ .word "add" :: .word "column" ::
        column.tokens)
  | .alterType table column type =>
      .word "alter" :: .word "table" :: (table.tokens ++ .word "alter" :: .word "column" ::
        .name column :: .word "type" :: (type.tokens ++ .word "using" :: .name column ::
          .cast :: type.tokens))
  | .setNullable table column isNullable =>
      .word "alter" :: .word "table" :: (table.tokens ++ .word "alter" :: .word "column" ::
        .name column :: .word (if isNullable then "drop" else "set") ::
          [.word "not", .word "null"])
  | .addPrimaryKey table key =>
      .word "alter" :: .word "table" :: (table.tokens ++ .word "add" :: .word "primary" ::
        .word "key" :: .opening :: (nameTokens key ++ [.closing]))

/-- Whether a statement can be read: a table has columns, and a key that is added has names. -/
def IsReadable : Definition → Prop
  | .createTable _ columns _ => columns ≠ []
  | .addPrimaryKey _ key => key ≠ []
  | _ => True

instance (definition : Definition) : Decidable definition.IsReadable :=
  match definition with
  | .createTable _ columns _ => inferInstanceAs (Decidable (columns ≠ []))
  | .addPrimaryKey _ key => inferInstanceAs (Decidable (key ≠ []))
  | .createSchema _ | .addColumn _ _ | .alterType _ _ _ | .setNullable _ _ _ => isTrue trivial

end Definition

/-! ## Tokens -/

theorem spells_nativeName (type : ValueType) : Spells type.nativeName type.tokens := by
  cases type <;> rfl

theorem spells_cast_nativeName (type : ValueType) :
    Spells ("::" ++ type.nativeName) (.cast :: type.tokens) := by
  cases type <;> rfl

theorem spells_column (column : Column) : Spells column.text column.tokens := by
  have typed : Spells (column.type.nativeName ++ if column.isNullable then "" else " NOT NULL")
      (column.type.tokens ++
        if column.isNullable then [] else [.word "not", .word "null"]) := by
    cases column.isNullable with
    | false =>
        rw [if_neg Bool.false_ne_true, if_neg Bool.false_ne_true]
        exact (spells_nativeName column.type).append (b := " NOT NULL") rfl rfl
    | true =>
        rw [if_pos rfl, if_pos rfl, String.append_empty, List.append_nil]
        exact spells_nativeName column.type
  rw [Column.text, String.append_assoc, String.append_assoc]
  exact (spells_quoteIdentifier column.name).join [] rfl rfl typed

/-- Names between parentheses. -/
theorem spells_closed (names : List String) :
    Spells (nameList names ++ ")") (nameTokens names ++ [.closing]) :=
  (spells_nameList names).append rfl rfl

theorem spells_tablePart (part : TablePart) : Spells part.text part.tokens := by
  cases part with
  | ofColumn column => exact spells_column column
  | ofKey names =>
      rw [TablePart.text, String.append_assoc]
      exact (spells_closed names).after [.word "primary", .word "key", .opening] rfl

/-- A statement that alters a table. -/
theorem spells_alteration {mark rest : String} {tokens : List Token} (table : TableName)
    (marks : List Token) (apart : beginsApart mark = true)
    (reads : Lexing.between.run? mark.toList = some (marks, .between))
    (spelled : Spells rest tokens) :
    Spells ("ALTER TABLE " ++ (table.text ++ (mark ++ rest)))
      (.word "alter" :: .word "table" :: (table.tokens ++ (marks ++ tokens))) :=
  Spells.after [.word "alter", .word "table"] rfl
    ((spells_tableName table).join marks apart reads spelled)

/-- The text of every statement about structure has its tokens. -/
theorem spells_definition (definition : Definition) :
    Spells definition.text definition.tokens := by
  unfold Definition.text
  cases definition with
  | createSchema schema =>
      exact (spells_quoteIdentifier schema).after
        [.word "create", .word "schema", .word "if", .word "not", .word "exists"] rfl
  | createTable table columns key =>
      have listed : Spells (", ".intercalate (tableParts columns key))
          ([.comma].intercalate ((TablePart.ofTable columns key).map TablePart.tokens)) := by
        rw [← TablePart.map_text_ofTable]
        exact Spells.intercalate [.comma] rfl rfl fun part _ => spells_tablePart part
      have closed := listed.append (b := ")") rfl (t := [.closing]) rfl
      simp only [String.append_assoc]
      exact Spells.after [.word "create", .word "table"] rfl
        ((spells_tableName table).join [.opening] rfl rfl closed)
  | addColumn table column =>
      simp only [String.append_assoc]
      exact spells_alteration table [.word "add", .word "column"] rfl rfl (spells_column column)
  | alterType table column type =>
      have cast : Spells (quoteIdentifier column ++ ("::" ++ type.nativeName))
          (.name column :: .cast :: type.tokens) := by
        apply (spells_cast_nativeName type).named column
        rw [String.toList_append]
        simp
      have used : Spells (type.nativeName ++ (" USING " ++ _)) _ :=
        (spells_nativeName type).join [.word "using"] rfl rfl cast
      have typed : Spells (quoteIdentifier column ++ (" TYPE " ++ _)) _ :=
        (spells_quoteIdentifier column).join [.word "type"] rfl rfl used
      simp only [String.append_assoc]
      exact spells_alteration table [.word "alter", .word "column"] rfl rfl typed
  | setNullable table column isNullable =>
      simp only [String.append_assoc]
      apply spells_alteration table [.word "alter", .word "column"] rfl rfl
      cases isNullable with
      | false => exact (spells_quoteIdentifier column).append rfl rfl
      | true => exact (spells_quoteIdentifier column).append rfl rfl
  | addPrimaryKey table key =>
      simp only [String.append_assoc]
      exact spells_alteration table [.word "add", .word "primary", .word "key", .opening] rfl rfl
        (spells_closed key)

/-! ## Readers -/

/-- Read a native type. -/
def readType : TokenReader ValueType
  | .word "text" :: tokens => some (.string, tokens)
  | .word "boolean" :: tokens => some (.boolean, tokens)
  | .word "smallint" :: tokens => some (.byte, tokens)
  | .word "integer" :: tokens => some (.integer, tokens)
  | .word "bigint" :: tokens => some (.long, tokens)
  | .word "real" :: tokens => some (.float, tokens)
  | .word "double" :: .word "precision" :: tokens => some (.double, tokens)
  | .word "bytea" :: tokens => some (.blob, tokens)
  | .word "date" :: tokens => some (.localDate, tokens)
  | .word "time" :: .word "without" :: .word "time" :: .word "zone" :: tokens =>
      some (.localTime, tokens)
  | .word "timestamp" :: .word "without" :: .word "time" :: .word "zone" :: tokens =>
      some (.localDateTime, tokens)
  | _ => none

/-- Read whether a column may be empty, which is forbidden explicitly. -/
def readNullability : TokenReader Bool
  | .word "not" :: .word "null" :: tokens => some (false, tokens)
  | tokens => some (true, tokens)

/-- Read the definition of a column. -/
def readColumn : TokenReader Column := fun tokens => do
  let (name, tokens) ← readName tokens
  let (type, tokens) ← readType tokens
  let (isNullable, tokens) ← readNullability tokens
  return (⟨name, type, isNullable⟩, tokens)

/-- Read names up to the end of the parentheses around them. -/
def readClosed : TokenReader (List String) := fun tokens => do
  let (names, tokens) ← readNames tokens
  let tokens ← skip? .closing tokens
  return (names, tokens)

/-- Read a part of a table definition. -/
def readTablePart : TokenReader TablePart
  | .word "primary" :: .word "key" :: .opening :: tokens =>
      mapRead .ofKey readClosed tokens
  | tokens => mapRead .ofColumn readColumn tokens

/-- Read the type of a column and how its values are brought to the type, which has to be a cast
of the column to it. -/
def readRetyping (column : String) : TokenReader ValueType := fun tokens => do
  let (type, tokens) ← readType tokens
  let tokens ← skip? (.word "using") tokens
  let tokens ← skip? (.name column) tokens
  let tokens ← skip? .cast tokens
  let (target, tokens) ← readType tokens
  if target = type then return (type, tokens) else none

/-- Read what is altered about a table. -/
def readAlteration (table : TableName) : TokenReader Definition
  | .word "add" :: .word "column" :: tokens => mapRead (.addColumn table) readColumn tokens
  | .word "add" :: .word "primary" :: .word "key" :: .opening :: tokens =>
      mapRead (.addPrimaryKey table) readClosed tokens
  | .word "alter" :: .word "column" :: .name column :: .word "type" :: tokens =>
      mapRead (.alterType table column) (readRetyping column) tokens
  | .word "alter" :: .word "column" :: .name column :: .word "drop" :: .word "not" ::
      .word "null" :: tokens => some (.setNullable table column true, tokens)
  | .word "alter" :: .word "column" :: .name column :: .word "set" :: .word "not" ::
      .word "null" :: tokens => some (.setNullable table column false, tokens)
  | _ => none

/-- Read a statement about structure. -/
def readDefinition : TokenReader Definition
  | .word "create" :: .word "schema" :: .word "if" :: .word "not" :: .word "exists" ::
      .name schema :: tokens => some (.createSchema schema, tokens)
  | .word "create" :: .word "table" :: tokens => do
      let (table, tokens) ← readTableName tokens
      let tokens ← skip? .opening tokens
      let (parts, tokens) ← readList .comma readTablePart tokens
      let tokens ← skip? .closing tokens
      let (columns, key) ← TablePart.assemble? parts
      return (.createTable table columns key, tokens)
  | .word "alter" :: .word "table" :: tokens => do
      let (table, tokens) ← readTableName tokens
      readAlteration table tokens
  | _ => none

theorem reads_type (type : ValueType) : Reads [] readType type.tokens type := by
  intro rest _
  cases type <;> rfl

theorem reads_column (column : Column) :
    Reads [.word "not"] readColumn column.tokens column := by
  intro rest apart
  obtain ⟨name, type, isNullable⟩ := column
  have typed := reads_type type
  cases isNullable with
  | false =>
      have read := typed (.word "not" :: .word "null" :: rest) (by simp)
      simp [readColumn, readName, Column.tokens, read, readNullability]
  | true =>
      have read := typed rest (by simp)
      have nullable : readNullability rest = some (true, rest) := by
        unfold readNullability
        split
        · simp at apart
        · rfl
      simp [readColumn, readName, Column.tokens, read, nullable]

theorem reads_closed {names : List String} (nonempty : names ≠ []) :
    Reads [] readClosed (nameTokens names ++ [.closing]) names := by
  intro rest _
  have read := reads_names nonempty (.closing :: rest) (by simp)
  simp [readClosed, read]

theorem reads_tablePart {part : TablePart} (nonempty : ∀ names, part = .ofKey names → names ≠ []) :
    Reads [.word "not"] readTablePart part.tokens part := by
  intro rest apart
  cases part with
  | ofColumn column => exact (reads_column column).map TablePart.ofColumn rest apart
  | ofKey names =>
      exact (reads_closed (nonempty names rfl)).map TablePart.ofKey rest (stopsBefore_of_none rest)

theorem reads_retyping (column : String) (type : ValueType) :
    Reads [] (readRetyping column)
      (type.tokens ++ .word "using" :: .name column :: .cast :: type.tokens) type := by
  intro rest apart
  have target := reads_type type rest apart
  have source := reads_type type
    (.word "using" :: .name column :: .cast :: (type.tokens ++ rest)) (by simp)
  simp only [List.append_assoc, List.cons_append]
  simp only [readRetyping, source, target, skip?_cons, Option.bind_eq_bind, Option.bind_some,
    if_true, pure]

/-- What is read about the parts of a table. -/
theorem reads_tableParts {columns : List Column} (key : List String) (nonempty : columns ≠ []) :
    Reads [.comma, .word "not"] (readList .comma readTablePart)
      ([.comma].intercalate ((TablePart.ofTable columns key).map TablePart.tokens))
      (TablePart.ofTable columns key) := by
  have keyed : ∀ part ∈ TablePart.ofTable columns key, ∀ names,
      part = .ofKey names → names ≠ [] := by
    rintro part member names rfl
    by_cases keyless : key = []
    · simp [TablePart.ofTable, keyless] at member
    · simp only [TablePart.ofTable, keyless, if_false, List.mem_append, List.mem_map,
        List.mem_singleton, reduceCtorEq, and_false, exists_false, false_or,
        TablePart.ofKey.injEq] at member
      exact member ▸ keyless
  have listed := reads_readList (fun part member => reads_tablePart (keyed part member))
    (by simp [TablePart.ofTable, nonempty]) (by simp : Token.comma ∉ [.word "not"])
  rwa [List.map_id'] at listed

/-- A statement that alters a table is read to its end when what it alters is. -/
theorem readAll?_alteration {table : TableName} {rest : List Token} {definition : Definition}
    (altered : readAlteration table rest = some (definition, [])) :
    readAll? readDefinition (.word "alter" :: .word "table" :: (table.tokens ++ rest)) =
      some definition := by
  have named := reads_tableName table rest (stopsBefore_of_none rest)
  apply readAll?_eq
  simp only [readDefinition, named, Option.bind_eq_bind, Option.bind_some, altered]

/-- Every statement about structure that can be read is read to its end as itself. -/
theorem readAll?_definition {definition : Definition} (readable : definition.IsReadable) :
    readAll? readDefinition definition.tokens = some definition := by
  cases definition with
  | createSchema schema => rfl
  | createTable table columns key =>
      have named := fun rest => reads_tableName table rest (stopsBefore_of_none rest)
      have parts := reads_tableParts key readable [.closing] (by simp)
      apply readAll?_eq
      simp only [readDefinition, Definition.tokens, named, parts, skip?_cons,
        TablePart.assemble?_ofTable, Option.bind_eq_bind, Option.bind_some, pure]
  | addColumn table column =>
      have read := (reads_column column).map (Definition.addColumn table) [] stopsBefore_nil
      rw [List.append_nil] at read
      exact readAll?_alteration read
  | alterType table column type =>
      have read := (reads_retyping column type).map (Definition.alterType table column) []
        stopsBefore_nil
      rw [List.append_nil] at read
      exact readAll?_alteration read
  | setNullable table column isNullable =>
      cases isNullable with
      | false => exact readAll?_alteration rfl
      | true => exact readAll?_alteration rfl
  | addPrimaryKey table key =>
      have read := (reads_closed readable).map (Definition.addPrimaryKey table) [] stopsBefore_nil
      rw [List.append_nil] at read
      exact readAll?_alteration read

/-- What a server reads in the text of a statement about structure. -/
def Definition.ofText? (text : String) : Option Definition :=
  (tokenize text.toList).bind (readAll? readDefinition)

/-- The text of a statement about structure that can be read says what the statement says. -/
theorem Definition.ofText?_text {definition : Definition} (readable : definition.IsReadable) :
    Definition.ofText? definition.text = some definition := by
  rw [ofText?, spells_definition, Option.bind_some, readAll?_definition readable]

end Sql

end TableStore
