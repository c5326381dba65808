import TableStore.Proofs.Sql.Condition
import TableStore.Sql.Statement

/-!
# Statements about rows read back

What a server reads in a statement about rows: the table, the columns, the constants and the
conjuncts of the restriction, each where its clause stands. The whole text has to be read, so
nothing may follow the last clause.
-/

namespace TableStore.Sql

/-- What a server reads in a statement about rows. -/
inductive Command where
  | count (table : TableName) (conjuncts : List Formula)
  | select (columns : List String) (table : TableName) (conjuncts : List Formula)
      (order : List String)
  | delete (table : TableName) (conjuncts : List Formula)
  | update (table : TableName) (assignments : List (String × Literal))
      (conjuncts : List Formula)
  | insert (table : TableName) (columns : List String) (rows : List (List Literal))

/-- The tokens of a table name. -/
def TableName.tokens (name : TableName) : List Token :=
  [.name name.schema, .point, .name name.table]

/-- The tokens of a list of names. -/
def nameTokens (names : List String) : List Token :=
  [.comma].intercalate (names.map fun name => [.name name])

/-- The tokens of an assignment. -/
def assignmentTokens (assignment : String × Literal) : List Token :=
  .name assignment.1 :: .operator .equal :: assignment.2.tokens

/-- The tokens of an inserted row. -/
def rowTokens (row : List Literal) : List Token :=
  .opening :: ([.comma].intercalate (row.map Literal.tokens) ++ [.closing])

/-- The tokens of an order. -/
def orderTokens : List String → List Token
  | [] => []
  | order => .word "order" :: .word "by" :: nameTokens order

namespace RowStatement

/-- The tokens of a statement about rows. -/
def tokens : RowStatement → List Token
  | .count table conditions =>
      .word "select" :: .word "count" :: .opening :: .star :: .closing :: .word "from" ::
        (table.tokens ++ whereTokens conditions)
  | .select columns table conditions order =>
      .word "select" :: (nameTokens columns ++ .word "from" ::
        (table.tokens ++ (whereTokens conditions ++ orderTokens order)))
  | .delete table conditions =>
      .word "delete" :: .word "from" :: (table.tokens ++ whereTokens conditions)
  | .update table assignments conditions =>
      .word "update" :: (table.tokens ++ .word "set" ::
        ([.comma].intercalate (assignments.map assignmentTokens) ++ whereTokens conditions))
  | .insert table columns rows =>
      .word "insert" :: .word "into" :: (table.tokens ++ .opening ::
        (nameTokens columns ++ .closing :: .word "values" ::
          [.comma].intercalate (rows.map rowTokens)))

/-- Whether a statement can be read: its lists have members, and its constants can be stored. -/
def IsReadable : RowStatement → Prop
  | .count _ conditions | .delete _ conditions =>
      ∀ condition ∈ conditions, condition.IsReadable
  | .select columns _ conditions _ =>
      columns ≠ [] ∧ ∀ condition ∈ conditions, condition.IsReadable
  | .update _ assignments conditions =>
      assignments ≠ [] ∧ (∀ assignment ∈ assignments, assignment.2.IsStorable) ∧
        ∀ condition ∈ conditions, condition.IsReadable
  | .insert _ columns rows =>
      columns ≠ [] ∧ rows ≠ [] ∧
        ∀ row ∈ rows, row ≠ [] ∧ ∀ literal ∈ row, literal.IsStorable

/-- What a server reads in a statement. -/
def command : RowStatement → Command
  | .count table conditions => .count table (conditions.map Condition.formula)
  | .select columns table conditions order =>
      .select columns table (conditions.map Condition.formula) order
  | .delete table conditions => .delete table (conditions.map Condition.formula)
  | .update table assignments conditions =>
      .update table (assignments.map fun (column, literal) => (column, literal.canonical))
        (conditions.map Condition.formula)
  | .insert table columns rows => .insert table columns (rows.map (List.map Literal.canonical))

end RowStatement

/-! ## Tokens -/

theorem spells_tableName (name : TableName) : Spells name.text name.tokens := by
  have rest : Spells ("." ++ quoteIdentifier name.table) [.point, .name name.table] :=
    (spells_quoteIdentifier name.table).after [.point] rfl
  rw [TableName.text, String.append_assoc]
  apply rest.named name.schema
  rw [String.toList_append]
  simp

theorem spells_nameList (names : List String) : Spells (nameList names) (nameTokens names) :=
  Spells.intercalate [.comma] rfl rfl fun name _ => spells_quoteIdentifier name

theorem spells_assignment (assignment : String × Literal) :
    Spells (assignmentText assignment) (assignmentTokens assignment) := by
  rw [assignmentText, String.append_assoc]
  exact (spells_quoteIdentifier assignment.1).join [.operator .equal] rfl rfl
    (spells_literal assignment.2)

theorem spells_row (row : List Literal) : Spells (rowText row) (rowTokens row) := by
  have literals : Spells (", ".intercalate (row.map Literal.text))
      ([.comma].intercalate (row.map Literal.tokens)) :=
    Spells.intercalate [.comma] rfl rfl fun literal _ => spells_literal literal
  have closed := literals.append (b := ")") rfl (t := [.closing]) rfl
  rw [rowText, String.append_assoc]
  exact closed.after [.opening] rfl

theorem spells_order (order : List String) : Spells (orderText order) (orderTokens order) := by
  cases order with
  | nil => rfl
  | cons name names => exact (spells_nameList (name :: names)).after [.word "order", .word "by"] rfl

theorem startsApart_order (order : List String) : StartsApart (orderText order).toList := by
  cases order with
  | nil => simp [orderText, StartsApart]
  | cons name names =>
      rw [orderText, String.toList_append]
      · exact startsApart_append rfl _
      · simp

theorem startsApart_where_append (conditions : List Condition) {rest : String}
    (apart : StartsApart rest.toList) : StartsApart (whereText conditions ++ rest).toList := by
  cases conditions with
  | nil => simpa [whereText] using apart
  | cons condition conditions =>
      rw [whereText, String.append_assoc, String.toList_append]
      · exact startsApart_append rfl _
      · simp

theorem startsApart_where (conditions : List Condition) :
    StartsApart (whereText conditions).toList := by
  have apart : StartsApart (whereText conditions ++ "").toList :=
    startsApart_where_append conditions (by simp [StartsApart])
  rwa [String.append_empty] at apart

/-- The text of every statement about rows has its tokens. -/
theorem spells_rowStatement (statement : RowStatement) :
    Spells statement.text statement.tokens := by
  unfold RowStatement.text
  cases statement with
  | count table conditions =>
      have clauses := (spells_tableName table).before (startsApart_where conditions)
        (spells_where conditions)
      simp only [String.append_assoc]
      exact clauses.after
        [.word "select", .word "count", .opening, .star, .closing, .word "from"] rfl
  | select columns table conditions order =>
      have ordered := (spells_where conditions).before (startsApart_order order)
        (spells_order order)
      have clauses := (spells_tableName table).before
        (startsApart_where_append conditions (startsApart_order order)) ordered
      simp only [String.append_assoc]
      exact Spells.after [.word "select"] rfl
        ((spells_nameList columns).join [.word "from"] rfl rfl clauses)
  | delete table conditions =>
      have clauses := (spells_tableName table).before (startsApart_where conditions)
        (spells_where conditions)
      simp only [String.append_assoc]
      exact clauses.after [.word "delete", .word "from"] rfl
  | update table assignments conditions =>
      have listed : Spells (", ".intercalate (assignments.map assignmentText))
          ([.comma].intercalate (assignments.map assignmentTokens)) :=
        Spells.intercalate [.comma] rfl rfl fun assignment _ => spells_assignment assignment
      have clauses := listed.before (startsApart_where conditions) (spells_where conditions)
      simp only [String.append_assoc]
      exact Spells.after [.word "update"] rfl
        ((spells_tableName table).join [.word "set"] rfl rfl clauses)
  | insert table columns rows =>
      have listed : Spells (", ".intercalate (rows.map rowText))
          ([.comma].intercalate (rows.map rowTokens)) :=
        Spells.intercalate [.comma] rfl rfl fun row _ => spells_row row
      have clauses : Spells (nameList columns ++ (") VALUES " ++ _)) _ :=
        (spells_nameList columns).join [.closing, .word "values"] rfl rfl listed
      simp only [String.append_assoc]
      exact Spells.after [.word "insert", .word "into"] rfl
        ((spells_tableName table).join [.opening] rfl rfl clauses)

/-! ## Readers -/

/-- Read a name. -/
def readName : TokenReader String
  | .name name :: tokens => some (name, tokens)
  | _ => none

/-- Read names with commas between them. -/
def readNames : TokenReader (List String) :=
  readList .comma readName

/-- Read the name of a table. -/
def readTableName : TokenReader TableName
  | .name schema :: .point :: .name table :: tokens => some (⟨schema, table⟩, tokens)
  | _ => none

/-- Read an assignment. -/
def readAssignment : TokenReader (String × Literal)
  | .name column :: .operator .equal :: tokens => mapRead (fun literal => (column, literal))
      readLiteral tokens
  | _ => none

/-- Read a row of constants. -/
def readRow : TokenReader (List Literal)
  | .opening :: tokens => do
      let (literals, tokens) ← readList .comma readLiteral tokens
      let tokens ← skip? .closing tokens
      return (literals, tokens)
  | _ => none

/-- Read the columns that a result is ordered by; without an order there are none. -/
def readOrder : TokenReader (List String)
  | .word "order" :: .word "by" :: tokens => readNames tokens
  | tokens => some ([], tokens)

/-- Read the table of a statement and the conjuncts of its restriction. -/
def readRestricted : TokenReader (TableName × List Formula) := fun tokens => do
  let (table, tokens) ← readTableName tokens
  let (conjuncts, tokens) ← readWhere tokens
  return ((table, conjuncts), tokens)

/-- Read a query of rows behind its first word. -/
def readSelection : TokenReader Command := fun tokens => do
  let (columns, tokens) ← readNames tokens
  let tokens ← skip? (.word "from") tokens
  let ((table, conjuncts), tokens) ← readRestricted tokens
  let (order, tokens) ← readOrder tokens
  return (.select columns table conjuncts order, tokens)

/-- Read an update behind its first word. -/
def readUpdate : TokenReader Command := fun tokens => do
  let (table, tokens) ← readTableName tokens
  let tokens ← skip? (.word "set") tokens
  let (assignments, tokens) ← readList .comma readAssignment tokens
  let (conjuncts, tokens) ← readWhere tokens
  return (.update table assignments conjuncts, tokens)

/-- Read an insertion behind its first words. -/
def readInsertion : TokenReader Command := fun tokens => do
  let (table, tokens) ← readTableName tokens
  let tokens ← skip? .opening tokens
  let (columns, tokens) ← readNames tokens
  let tokens ← skip? .closing tokens
  let tokens ← skip? (.word "values") tokens
  let (rows, tokens) ← readList .comma readRow tokens
  return (.insert table columns rows, tokens)

/-- Read a statement about rows. -/
def readCommand : TokenReader Command
  | .word "select" :: .word "count" :: .opening :: .star :: .closing :: .word "from" :: tokens =>
      mapRead (fun (table, conjuncts) => .count table conjuncts) readRestricted tokens
  | .word "select" :: tokens => readSelection tokens
  | .word "delete" :: .word "from" :: tokens =>
      mapRead (fun (table, conjuncts) => .delete table conjuncts) readRestricted tokens
  | .word "update" :: tokens => readUpdate tokens
  | .word "insert" :: .word "into" :: tokens => readInsertion tokens
  | _ => none

theorem reads_tableName (table : TableName) : Reads [] readTableName table.tokens table :=
  fun _ _ => rfl

theorem reads_names {names : List String} (nonempty : names ≠ []) :
    Reads [.comma] readNames (nameTokens names) names := by
  have reads : ∀ name ∈ names, Reads [] readName [.name name] name := fun _ _ _ _ => rfl
  have listed := reads_readList reads nonempty (by simp : Token.comma ∉ [])
  rwa [List.map_id'] at listed

theorem reads_order (order : List String) :
    Reads [.comma, .word "order"] readOrder (orderTokens order) order := by
  intro rest apart
  cases order with
  | nil =>
      change readOrder rest = some ([], rest)
      unfold readOrder
      split
      · simp at apart
      · rfl
  | cons name names => exact reads_names (by simp) rest (apart.mono (by simp))

theorem reads_assignment {assignment : String × Literal} (storable : assignment.2.IsStorable) :
    Reads [.cast] readAssignment (assignmentTokens assignment)
      (assignment.1, assignment.2.canonical) := by
  intro rest apart
  exact (reads_literal storable).map (fun literal => (assignment.1, literal)) rest apart

theorem reads_row {row : List Literal} (nonempty : row ≠ [])
    (storable : ∀ literal ∈ row, literal.IsStorable) :
    Reads [] readRow (rowTokens row) (row.map Literal.canonical) := by
  intro rest _
  have listed := reads_readList (fun literal member => reads_literal (storable literal member))
    nonempty (by simp : Token.comma ∉ [.cast]) (.closing :: rest) (by simp)
  simp only [readRow, rowTokens, List.cons_append, List.append_assoc, List.nil_append, listed,
    Option.bind_eq_bind, Option.bind_some, skip?_cons, pure]

theorem reads_restricted (table : TableName) {conditions : List Condition}
    (readable : ∀ condition ∈ conditions, condition.IsReadable) :
    Reads [.word "where", .word "and", .cast] readRestricted
      (table.tokens ++ whereTokens conditions) (table, conditions.map Condition.formula) := by
  intro rest apart
  have restriction := reads_where readable rest apart
  have named := reads_tableName table (whereTokens conditions ++ rest) (by simp)
  rw [List.append_assoc]
  simp only [readRestricted, named, restriction, Option.bind_eq_bind, Option.bind_some, pure]

theorem exists_nameTokens {names : List String} (nonempty : names ≠ []) :
    ∃ name more, nameTokens names = .name name :: more := by
  match names, nonempty with
  | [name], _ => exact ⟨name, [], rfl⟩
  | name :: next :: names, _ => exact ⟨name, _, by rw [nameTokens]; rfl⟩

theorem stopsBefore_whereTokens {stops : List Token} (conditions : List Condition)
    {rest : List Token} (noWhere : .word "where" ∉ stops) (apart : StopsBefore stops rest) :
    StopsBefore stops (whereTokens conditions ++ rest) := by
  cases conditions with
  | nil => exact apart
  | cons condition conditions => exact stopsBefore_cons.mpr noWhere

theorem stopsBefore_orderTokens {stops : List Token} (order : List String)
    (noOrder : .word "order" ∉ stops) : StopsBefore stops (orderTokens order) := by
  cases order with
  | nil => exact stopsBefore_nil
  | cons name names => exact stopsBefore_cons.mpr noOrder

/-- A query of rows is read to its end. -/
theorem readSelection_eq {columns : List String} (nonempty : columns ≠ []) (table : TableName)
    {conditions : List Condition} (readable : ∀ condition ∈ conditions, condition.IsReadable)
    (order : List String) :
    readSelection (nameTokens columns ++ .word "from" ::
        (table.tokens ++ (whereTokens conditions ++ orderTokens order))) =
      some (.select columns table (conditions.map Condition.formula) order, []) := by
  have names := reads_names nonempty (.word "from" ::
    (table.tokens ++ (whereTokens conditions ++ orderTokens order))) (by simp)
  have restricted := reads_restricted table readable (orderTokens order)
    (stopsBefore_orderTokens order (by simp))
  have ordered := reads_order order [] stopsBefore_nil
  rw [List.append_assoc] at restricted
  rw [List.append_nil] at ordered
  simp only [readSelection, names, restricted, ordered, skip?_cons, Option.bind_eq_bind,
    Option.bind_some, pure]

/-- An update is read to its end. -/
theorem readUpdate_eq (table : TableName) {assignments : List (String × Literal)}
    (nonempty : assignments ≠ [])
    (storable : ∀ assignment ∈ assignments, assignment.2.IsStorable)
    {conditions : List Condition} (readable : ∀ condition ∈ conditions, condition.IsReadable) :
    readUpdate (table.tokens ++ .word "set" ::
        ([.comma].intercalate (assignments.map assignmentTokens) ++ whereTokens conditions)) =
      some (.update table (assignments.map fun (column, literal) => (column, literal.canonical))
        (conditions.map Condition.formula), []) := by
  have named := fun rest => reads_tableName table rest (stopsBefore_of_none rest)
  have listed := reads_readList
    (fun assignment member => reads_assignment (storable assignment member)) nonempty
    (by simp : Token.comma ∉ [.cast]) (whereTokens conditions ++ [])
    (stopsBefore_whereTokens conditions (by simp) stopsBefore_nil)
  have restriction := reads_where readable [] stopsBefore_nil
  rw [List.append_nil] at listed restriction
  simp only [readUpdate, named, listed, restriction, skip?_cons, Option.bind_eq_bind,
    Option.bind_some, pure]

/-- An insertion is read to its end. -/
theorem readInsertion_eq (table : TableName) {columns : List String}
    (columnsNonempty : columns ≠ []) {rows : List (List Literal)} (rowsNonempty : rows ≠ [])
    (storable : ∀ row ∈ rows, row ≠ [] ∧ ∀ literal ∈ row, literal.IsStorable) :
    readInsertion (table.tokens ++ .opening ::
        (nameTokens columns ++ .closing :: .word "values" ::
          [.comma].intercalate (rows.map rowTokens))) =
      some (.insert table columns (rows.map (List.map Literal.canonical)), []) := by
  have named := fun rest => reads_tableName table rest (stopsBefore_of_none rest)
  have names := reads_names columnsNonempty (.closing :: .word "values" ::
    [.comma].intercalate (rows.map rowTokens)) (by simp)
  have listed := reads_readList
    (fun row member => reads_row (storable row member).1 (storable row member).2)
    rowsNonempty (by simp : Token.comma ∉ []) [] stopsBefore_nil
  rw [List.append_nil] at listed
  simp only [readInsertion, named, names, listed, skip?_cons, Option.bind_eq_bind,
    Option.bind_some, pure]

/-- Every statement about rows that can be read is read to its end. -/
theorem readAll?_rowStatement {statement : RowStatement} (readable : statement.IsReadable) :
    readAll? readCommand statement.tokens = some statement.command := by
  cases statement with
  | count table conditions =>
      have read := (reads_restricted table readable).map
        fun (table, conjuncts) => Command.count table conjuncts
      exact read.readAll?
  | select columns table conditions order =>
      obtain ⟨nonempty, readable⟩ := readable
      have read := readSelection_eq nonempty table readable order
      obtain ⟨name, more, begins⟩ := exists_nameTokens nonempty
      apply readAll?_eq
      rw [begins] at read
      rw [RowStatement.tokens, begins]
      exact read
  | delete table conditions =>
      have read := (reads_restricted table readable).map
        fun (table, conjuncts) => Command.delete table conjuncts
      exact read.readAll?
  | update table assignments conditions =>
      obtain ⟨nonempty, storable, readable⟩ := readable
      exact readAll?_eq (readUpdate_eq table nonempty storable readable)
  | insert table columns rows =>
      obtain ⟨columnsNonempty, rowsNonempty, storable⟩ := readable
      exact readAll?_eq (readInsertion_eq table columnsNonempty rowsNonempty storable)

end TableStore.Sql
