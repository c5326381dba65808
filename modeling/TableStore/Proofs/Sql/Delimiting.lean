import TableStore.Sql.Quoting

/-!
# Where quoted texts end

A server reads a quoted text character by character. A mark that is written twice stands for itself,
a mark that stands alone ends the text, and in an escape string a backslash takes in whatever
character follows it. Neither a mark nor a backslash of a text can be taken for anything else once
both are doubled, so what is read is the very text that was quoted, and reading stops right behind
its last mark unless another mark follows there.

Since the reader stops where the quoted text ends, a quoted text and what stands behind it can be
told apart in every text that is made of the two.
-/

namespace TableStore.Sql

/-- What is read when some characters have been read before. -/
def readAfter (read : List Char) (reached : List Char × List Char) : List Char × List Char :=
  (read ++ reached.1, reached.2)

/-- The text inside quotes up to the mark that ends it, and what follows this mark. -/
def scanQuoted (mark : Char) (escapes : Bool) : List Char → Option (List Char × List Char)
  | [] => none
  | [c] => if c = mark then some ([], []) else none
  | c :: d :: rest =>
      if c = mark then
        if d = mark then (scanQuoted mark escapes rest).map (readAfter [mark])
        else some ([], d :: rest)
      else if escapes = true ∧ c = '\\' then (scanQuoted mark escapes rest).map (readAfter [d])
      else (scanQuoted mark escapes (d :: rest)).map (readAfter [c])

/-- The content of the escape string at the front of a text, and what follows it. -/
def scanString : List Char → Option (List Char × List Char)
  | 'E' :: '\'' :: text => scanQuoted '\'' true text
  | _ => none

/-- The quoted name at the front of a text, and what follows it. -/
def scanName : List Char → Option (List Char × List Char)
  | '"' :: text => scanQuoted '"' false text
  | _ => none

/-! ## Reading quoted texts -/

section Scanning

variable {mark : Char} {escapes : Bool} {text rest : List Char}

/-- A character without a meaning of its own is read as itself. -/
theorem scanQuoted_plain {c : Char} (noMark : c ≠ mark) (noEscape : ¬(escapes = true ∧ c = '\\')) :
    scanQuoted mark escapes (c :: text) = (scanQuoted mark escapes text).map (readAfter [c]) := by
  cases text with
  | nil => simp [scanQuoted, noMark]
  | cons d text => rw [scanQuoted, if_neg noMark, if_neg noEscape]

/-- A mark that is written twice is read as one. -/
theorem scanQuoted_twice :
    scanQuoted mark escapes (mark :: mark :: text) =
      (scanQuoted mark escapes text).map (readAfter [mark]) := by
  rw [scanQuoted, if_pos rfl, if_pos rfl]

/-- A mark that stands alone ends the text. -/
theorem scanQuoted_alone (alone : mark ∉ rest.head?) :
    scanQuoted mark escapes (mark :: rest) = some ([], rest) := by
  cases rest with
  | nil => simp [scanQuoted]
  | cons d rest =>
      have other : d ≠ mark := fun same => alone (same ▸ rfl)
      rw [scanQuoted, if_pos rfl, if_neg other]

theorem map_readAfter_cons (c : Char) (read : List Char)
    (reached : Option (List Char × List Char)) :
    (reached.map (readAfter read)).map (readAfter [c]) = reached.map (readAfter (c :: read)) := by
  rw [Option.map_map]
  rfl

/-- Where a backslash is a character like any other, a text with its marks doubled is read as
itself. -/
theorem scanQuoted_double (name : List Char) :
    scanQuoted mark false (double mark name ++ text) =
      (scanQuoted mark false text).map (readAfter name) := by
  induction name with
  | nil => exact Option.map_id'.symm
  | cons c name ih =>
      by_cases same : c = mark
      · subst same
        rw [double, if_pos rfl, List.cons_append, List.cons_append, scanQuoted_twice, ih,
          map_readAfter_cons]
      · rw [double, if_neg same, List.cons_append, scanQuoted_plain same (by simp), ih,
          map_readAfter_cons]

/-- In an escape string a text is read as itself once its backslashes and then its quotes are
doubled: a doubled backslash is no quote and stays as it is under the second doubling. -/
theorem scanQuoted_double_double (content : List Char) :
    scanQuoted '\'' true (double '\'' (double '\\' content) ++ text) =
      (scanQuoted '\'' true text).map (readAfter content) := by
  induction content with
  | nil => exact Option.map_id'.symm
  | cons c content ih =>
      by_cases backslash : c = '\\'
      · subst backslash
        have taken (more : List Char) : scanQuoted '\'' true ('\\' :: '\\' :: more) =
            (scanQuoted '\'' true more).map (readAfter ['\\']) := rfl
        rw [double, if_pos rfl, double, if_neg (by decide), double, if_neg (by decide),
          List.cons_append, List.cons_append, taken, ih, map_readAfter_cons]
      · rw [double, if_neg backslash]
        by_cases quote : c = '\''
        · subst quote
          rw [double, if_pos rfl, List.cons_append, List.cons_append, scanQuoted_twice, ih,
            map_readAfter_cons]
        · rw [double, if_neg quote, List.cons_append,
            scanQuoted_plain quote fun escaped => backslash escaped.2, ih, map_readAfter_cons]

/-- Behind what is read like this, the closing mark ends the text exactly when no other mark
follows it. -/
theorem scanQuoted_closing_iff {read : List Char} :
    (scanQuoted mark escapes (mark :: rest)).map (readAfter read) = some (read, rest) ↔
      mark ∉ rest.head? := by
  constructor
  · intro scanned follows
    cases rest with
    | nil => cases follows
    | cons d rest =>
        cases follows
        rw [scanQuoted_twice, Option.map_map, Option.map_eq_some_iff] at scanned
        obtain ⟨⟨more, after⟩, -, longer⟩ := scanned
        have lengths := congrArg (fun reached => reached.1.length) longer
        simp [readAfter] at lengths
  · intro alone
    rw [scanQuoted_alone alone, Option.map_some, readAfter, List.append_nil]

end Scanning

/-! ## Where reading stops -/

/-- An escape string is read as its content and reading stops behind it, exactly when no quote
follows. -/
theorem scanString_append_iff {content : String} {rest : List Char} :
    scanString ((quoteString content).toList ++ rest) = some (content.toList, rest) ↔
      '\'' ∉ rest.head? := by
  have opened : scanString ((quoteString content).toList ++ rest) =
      scanQuoted '\'' true (double '\'' (double '\\' content.toList) ++ '\'' :: rest) := by
    rw [toList_quoteString, stringChars, List.cons_append, List.cons_append, scanString,
      List.append_assoc, List.singleton_append]
  rw [opened, scanQuoted_double_double, scanQuoted_closing_iff]

/-- A quoted name is read as the name and reading stops behind it, exactly when no mark of names
follows. -/
theorem scanName_append_iff {name : String} {rest : List Char} :
    scanName ((quoteIdentifier name).toList ++ rest) = some (name.toList, rest) ↔
      '"' ∉ rest.head? := by
  have opened : scanName ((quoteIdentifier name).toList ++ rest) =
      scanQuoted '"' false (double '"' name.toList ++ '"' :: rest) := by
    rw [toList_quoteIdentifier, identifierChars, List.cons_append, scanName, List.append_assoc,
      List.singleton_append]
  rw [opened, scanQuoted_double, scanQuoted_closing_iff]

/-- What a reader stops behind can be told from what follows it. -/
theorem eq_of_scanned {scan : List Char → Option (List Char × List Char)}
    {quote : String → String} {a b rest other : String}
    (first : scan ((quote a).toList ++ rest.toList) = some (a.toList, rest.toList))
    (second : scan ((quote b).toList ++ other.toList) = some (b.toList, other.toList))
    (same : quote a ++ rest = quote b ++ other) : a = b ∧ rest = other := by
  have characters := congrArg String.toList same
  rw [String.toList_append, String.toList_append] at characters
  rw [characters, second, Option.some_inj, Prod.mk.injEq] at first
  exact ⟨(String.toList_injective first.1).symm, (String.toList_injective first.2).symm⟩

/-- Quoted texts show where they end. A reader of escape strings, set at the beginning of a quoted
text, reads the text that was quoted and stops right behind it exactly when no further quote follows
there; a reader of names does the same with quoted names. So equal texts that begin with quoted
texts, none of them before a further mark, begin with the same quoted text and go on in the same
way. -/
theorem quoted_texts_show_their_end :
    (∀ content rest : String,
      scanString (quoteString content ++ rest).toList = some (content.toList, rest.toList) ↔
        '\'' ∉ rest.toList.head?) ∧
    (∀ name rest : String,
      scanName (quoteIdentifier name ++ rest).toList = some (name.toList, rest.toList) ↔
        '"' ∉ rest.toList.head?) ∧
    (∀ a b rest other : String, '\'' ∉ rest.toList.head? → '\'' ∉ other.toList.head? →
      quoteString a ++ rest = quoteString b ++ other → a = b ∧ rest = other) ∧
    ∀ a b rest other : String, '"' ∉ rest.toList.head? → '"' ∉ other.toList.head? →
      quoteIdentifier a ++ rest = quoteIdentifier b ++ other → a = b ∧ rest = other := by
  refine ⟨?_, ?_, ?_, ?_⟩
  · intro content rest
    rw [String.toList_append, scanString_append_iff]
  · intro name rest
    rw [String.toList_append, scanName_append_iff]
  · intro a b rest other apart otherApart same
    exact eq_of_scanned (scanString_append_iff.mpr apart) (scanString_append_iff.mpr otherApart)
      same
  · intro a b rest other apart otherApart same
    exact eq_of_scanned (scanName_append_iff.mpr apart) (scanName_append_iff.mpr otherApart) same

/-- A text that ends in a backslash is read to its end, and so is a name that is a single mark. A text
that another quote follows goes on. What stands behind a text that ends in a backslash, or behind a
name, is not taken for a part of it. -/
theorem hostile_texts_show_their_end :
    scanString "E'it''s \\\\' = E''".toList = some ("it's \\".toList, " = E''".toList) ∧
      scanName "\"\"\"\".\"zip\"".toList = some ("\"".toList, ".\"zip\"".toList) ∧
      scanString "E'a''b'".toList ≠ some ("a".toList, "'b'".toList) ∧
      quoteString "\\" ++ " OR E''" ≠ quoteString "\\' OR E" ++ "" ∧
      quoteIdentifier "zip" ++ ".\"code\"" ≠ quoteIdentifier "zip\".\"code" ++ "" := by
  obtain ⟨strings, names, stringsApart, namesApart⟩ := quoted_texts_show_their_end
  refine ⟨?_, ?_, ?_, ?_, ?_⟩
  · exact (strings "it's \\" " = E''").mpr (by decide)
  · exact (names "\"" ".\"zip\"").mpr (by decide)
  · exact fun stops => (strings "a" "'b'").mp stops (by decide)
  · intro same
    have equal := stringsApart "\\" "\\' OR E" " OR E''" "" (by decide) (by decide) same
    exact absurd equal.1 (by decide)
  · intro same
    have equal := namesApart "zip" "zip\".\"code" ".\"code\"" "" (by decide) (by decide) same
    exact absurd equal.1 (by decide)

end TableStore.Sql
