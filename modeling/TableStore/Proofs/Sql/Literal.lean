import TableStore.Proofs.Calendar.Iso
import TableStore.Proofs.Decimal.Notation
import TableStore.Proofs.Hex
import TableStore.Proofs.Sql.Reader
import TableStore.Proofs.Sql.Spelling
import TableStore.Sql.Literal

/-!
# Literals read back

The constants of a statement are read as a server reads them: a string with a cast behind it
is read at the type of the cast, a string behind the name of a type at that type, and a string
alone is a text. A server has a single pattern for what is not a number, and apart from that
every literal whose dates and times can be stored is read as itself.
-/

namespace TableStore

open Binary Calendar Decimal

namespace Binary.Number

variable {format : Format}

/-- The one pattern of a format that a server stores for what is not a number. -/
def nan (format : Format) : Number format :=
  ofMagnitude false (format.infinity + 2 ^ (format.fractionBits - 1))

/-- A number as a server stores it. -/
def canonical (x : Number format) : Number format :=
  if x.isNaN then nan format else x

end Binary.Number

namespace Sql

/-- The number of a format that a text inside quotes stands for. -/
def readNumber? (format : Format) (text : String) : Option (Number format) :=
  if text = "NaN" then some (Number.nan format)
  else if text = "Infinity" then some (.ofMagnitude false format.infinity)
  else if text = "-Infinity" then some (.ofMagnitude true format.infinity)
  else readPositional? format text.toList

theorem isNaN_or_isInfinite_or_isFinite {format : Format} (x : Number format) :
    x.isNaN = true ∨ x.isInfinite = true ∨ x.isFinite = true := by
  simp only [Number.isNaN, Number.isInfinite, Number.isFinite, decide_eq_true_eq, beq_iff_eq]
  omega

/-- The text of a finite number has no character that is no digit, point or sign. -/
theorem positional_ne {format : Format} (x : Number format) {text : String} {c : Char}
    (member : c ∈ text.toList) (other : ¬(c.isDigit = true ∨ c = '.' ∨ c = '-')) :
    String.ofList (positional .upward x) ≠ text := by
  rintro rfl
  rw [String.toList_ofList] at member
  exact other (mem_positional member)

/-- A binary number reads back up to the pattern of what is not a number. -/
theorem readNumber?_numberText {format : Format} (searchable : Searchable format)
    (x : Number format) : readNumber? format (numberText x) = some x.canonical := by
  unfold numberText Number.textNaming Number.canonical
  by_cases nan : x.isNaN = true
  · rw [if_pos nan, if_pos nan]
    rfl
  rw [if_neg nan, if_neg nan]
  by_cases infinite : x.isInfinite = true
  · have rounded := x.ofMagnitude_magnitude
    rw [eq_of_beq infinite] at rounded
    rw [if_pos infinite]
    cases negative : x.isNegative with
    | true =>
        rw [negative] at rounded
        rw [← rounded]
        rfl
    | false =>
        rw [negative] at rounded
        rw [← rounded]
        rfl
  · have finite : x.isFinite = true :=
      ((isNaN_or_isInfinite_or_isFinite x).resolve_left nan).resolve_left infinite
    have noNaN : String.ofList (positional .upward x) ≠ "NaN" :=
      positional_ne x (c := 'N') (by decide) (by decide)
    have noInfinity : String.ofList (positional .upward x) ≠ "Infinity" :=
      positional_ne x (c := 'I') (by decide) (by decide)
    have noNegative : String.ofList (positional .upward x) ≠ "-Infinity" :=
      positional_ne x (c := 'I') (by decide) (by decide)
    rw [if_neg infinite, readNumber?, if_neg noNaN, if_neg noInfinity, if_neg noNegative,
      String.toList_ofList, readPositional?_positional searchable finite]

theorem quote_notMem_numberText {format : Format} (x : Number format) :
    '\'' ∉ (numberText x).toList := by
  unfold numberText Number.textNaming
  split
  · decide
  split
  · split <;> decide
  · rw [String.toList_ofList]
    intro member
    exact absurd (mem_positional member) (by decide)

namespace Literal

/-- The tokens of a literal. -/
def tokens : Literal → List Token
  | .null => [.word "null"]
  | .string content => [.string content]
  | .boolean true => [.word "true"]
  | .boolean false => [.word "false"]
  | .integer n => [.integer n]
  | .real x => [.string (numberText x), .cast, .word "real"]
  | .double x => [.string (numberText x), .cast, .word "double", .word "precision"]
  | .bytes content =>
      [.string (String.ofList ('\\' :: 'x' :: content.flatMap Hex.ofByte)), .cast, .word "bytea"]
  | .date day => [.word "date", .string (String.ofList day.text)]
  | .time clock => [.word "time", .string (String.ofList clock.microText)]
  | .timestamp day clock =>
      [.word "timestamp", .string (String.ofList (day.text ++ ' ' :: clock.microText))]

/-- Whether the dates and times of a literal can be stored. -/
def IsStorable : Literal → Prop
  | .date day => StorageIssue.ofDate? day = none
  | .time clock => StorageIssue.ofTime? clock = none
  | .timestamp day clock =>
      StorageIssue.ofDate? day = none ∧ StorageIssue.ofTime? clock = none
  | _ => True

/-- A literal as a server reads it. -/
def canonical : Literal → Literal
  | .real x => .real x.canonical
  | .double x => .double x.canonical
  | literal => literal

end Literal

/-- A plain string keeps its tokens when a cast stands behind it. -/
theorem tokenize_plainString_cast {content cast : List Char} {words : List Token}
    (noQuote : '\'' ∉ content) (begins : cast.head? = some ':')
    (castTokens : tokenize cast = some words) :
    tokenize ('\'' :: (content ++ '\'' :: cast)) =
      some (.string (String.ofList content) :: words) := by
  have split : '\'' :: (content ++ '\'' :: cast) = ('\'' :: (content ++ ['\''])) ++ cast := by
    simp
  have apart : ∀ c ∈ cast.head?, (Lexing.stringMark false content).extend? c = none := by
    intro c member
    rw [begins] at member
    rw [← Option.mem_some_iff.mp member]
    rfl
  rw [split, tokenize_append_of_state (Lexing.run?_plainString noQuote) rfl apart, castTokens]
  rfl

/-- So does an escape string. -/
theorem tokenize_stringChars_cast (content : List Char) {cast : List Char} {words : List Token}
    (begins : cast.head? = some ':') (castTokens : tokenize cast = some words) :
    tokenize (stringChars content ++ cast) =
      some (.string (String.ofList content) :: words) := by
  have apart : ∀ c ∈ cast.head?, (Lexing.stringMark true content).extend? c = none := by
    intro c member
    rw [begins] at member
    rw [← Option.mem_some_iff.mp member]
    rfl
  rw [tokenize_append_of_state (Lexing.run?_stringChars content) rfl apart, castTokens]
  rfl

theorem double_of_notMem {c : Char} {text : List Char} (absent : c ∉ text) :
    double c text = text := by
  induction text with
  | nil => rfl
  | cons d text ih =>
      simp only [List.mem_cons, not_or] at absent
      rw [double, if_neg (Ne.symm absent.1), ih absent.2]

theorem notMem_flatMap_ofByte {c : Char} (bytes : List UInt8)
    (noDigit : ∀ n < 16, c ≠ Nat.digitChar n) : c ∉ bytes.flatMap Hex.ofByte := by
  intro member
  obtain ⟨byte, -, digit⟩ := List.mem_flatMap.mp member
  obtain ⟨n, small, equal⟩ := Hex.mem_ofByte digit
  exact noDigit n small equal

/-- Bytes stand in an escape string of which only the first character is doubled. -/
theorem stringChars_bytes (bytes : List UInt8) :
    stringChars ('\\' :: 'x' :: bytes.flatMap Hex.ofByte) =
      'E' :: '\'' :: '\\' :: '\\' :: 'x' :: (bytes.flatMap Hex.ofByte ++ ['\'']) := by
  have noBackslash : '\\' ∉ bytes.flatMap Hex.ofByte :=
    notMem_flatMap_ofByte bytes (by decide)
  have noQuote : '\'' ∉ bytes.flatMap Hex.ofByte :=
    notMem_flatMap_ofByte bytes (by decide)
  simp [stringChars, double, double_of_notMem noBackslash, double_of_notMem noQuote]

theorem quote_notMem_padded (width n : Nat) : '\'' ∉ padded width n := fun member =>
  absurd (isDigit_of_mem_padded member) (by decide)

theorem quote_notMem_date (day : Date) : '\'' ∉ day.text := by
  have year : '\'' ∉ Date.yearText day.year := by
    unfold Date.yearText
    split
    · exact quote_notMem_padded 4 _
    · split <;> simp [quote_notMem_padded]
  simp [Date.text, year, quote_notMem_padded]

theorem quote_notMem_microText (clock : Time) : '\'' ∉ clock.microText := by
  simp [Time.microText, Time.clockText, quote_notMem_padded]

/-- A word and a blank, then a plain string. -/
theorem tokenize_typed {type content : List Char} {words : List Token}
    (noQuote : '\'' ∉ content) (word : Lexing.between.run? type = some (words, .between)) :
    tokenize (type ++ '\'' :: (content ++ ['\''])) =
      some (words ++ [.string (String.ofList content)]) := by
  rw [tokenize_append_of_between _ word, tokenize_plainString noQuote]
  rfl

/-- A constant whose type stands in front of its string. -/
theorem spells_typed {opening : String} {type content : List Char} {words : List Token}
    (opens : opening.toList = type ++ ['\'']) (noQuote : '\'' ∉ content)
    (word : Lexing.between.run? type = some (words, .between)) :
    Spells (opening ++ String.ofList content ++ "'")
      (words ++ [.string (String.ofList content)]) := by
  rw [Spells, String.toList_append, String.toList_append, opens, String.toList_ofList,
    List.append_assoc, List.append_assoc]
  exact tokenize_typed noQuote word

/-- A constant whose type stands behind its string. -/
theorem spells_cast {content closing : String} {cast : List Char} {words : List Token}
    (closes : closing.toList = '\'' :: cast) (noQuote : '\'' ∉ content.toList)
    (begins : cast.head? = some ':') (castTokens : tokenize cast = some words) :
    Spells ("'" ++ content ++ closing) (.string content :: words) := by
  have quoted := tokenize_plainString_cast noQuote begins castTokens
  rw [String.ofList_toList] at quoted
  rw [Spells, String.toList_append, String.toList_append, closes, List.append_assoc]
  exact quoted

/-- The text of every literal has its tokens. -/
theorem spells_literal (literal : Literal) : Spells literal.text literal.tokens := by
  cases literal with
  | null => rfl
  | string content => exact spells_quoteString content
  | boolean truth => cases truth <;> rfl
  | integer n => exact spells_integerText n
  | real x =>
      have cast : tokenize "::real".toList = some [.cast, .word "real"] := rfl
      exact spells_cast rfl (quote_notMem_numberText x) rfl cast
  | double x =>
      have cast : tokenize "::double precision".toList =
          some [.cast, .word "double", .word "precision"] := rfl
      exact spells_cast rfl (quote_notMem_numberText x) rfl cast
  | bytes content =>
      have cast : tokenize "::bytea".toList = some [.cast, .word "bytea"] := rfl
      have quoted :=
        tokenize_stringChars_cast ('\\' :: 'x' :: content.flatMap Hex.ofByte) rfl cast
      simp only [stringChars_bytes, List.cons_append, List.append_assoc] at quoted
      simp only [Spells, Literal.text, String.toList_append, String.toList_ofList,
        List.append_assoc]
      exact quoted
  | date day =>
      have word : Lexing.between.run? "DATE ".toList = some ([.word "date"], .between) := rfl
      exact spells_typed rfl (quote_notMem_date day) word
  | time clock =>
      have word : Lexing.between.run? "TIME ".toList = some ([.word "time"], .between) := rfl
      exact spells_typed rfl (quote_notMem_microText clock) word
  | timestamp day clock =>
      have word : Lexing.between.run? "TIMESTAMP ".toList =
          some ([.word "timestamp"], .between) := rfl
      have noQuote : '\'' ∉ day.text ++ ' ' :: clock.microText := by
        simp [quote_notMem_date, quote_notMem_microText]
      have joined : (Literal.timestamp day clock).text =
          "TIMESTAMP '" ++ String.ofList (day.text ++ ' ' :: clock.microText) ++ "'" := by
        apply String.toList_injective
        simp [Literal.text]
      rw [joined]
      exact spells_typed rfl noQuote word

/-- The bytes that a text inside quotes stands for. -/
def readBytea? (text : List Char) : Option (List UInt8) :=
  match text with
  | '\\' :: 'x' :: digits => Hex.readBytes? digits
  | _ => none

/-- The date that a text inside quotes stands for. -/
def readDate? (text : List Char) : Option Date :=
  match readIsoDate? text with
  | some (day, []) => some day
  | _ => none

/-- The time that a text inside quotes stands for. -/
def readTime? (text : List Char) : Option Time :=
  match readIsoTime? text with
  | some (clock, []) => some clock
  | _ => none

/-- The date and time that a text inside quotes stands for. -/
def readTimestamp? (text : List Char) : Option (Date × Time) :=
  match readIsoDate? text with
  | some (day, ' ' :: rest) => (readTime? rest).map fun clock => (day, clock)
  | _ => none

/-- Read a constant. -/
def readLiteral : TokenReader Literal
  | .word "null" :: tokens => some (.null, tokens)
  | .word "true" :: tokens => some (.boolean true, tokens)
  | .word "false" :: tokens => some (.boolean false, tokens)
  | .integer n :: tokens => some (.integer n, tokens)
  | .string content :: .cast :: .word "real" :: tokens =>
      (readNumber? .single content).map fun x => (.real x, tokens)
  | .string content :: .cast :: .word "double" :: .word "precision" :: tokens =>
      (readNumber? .double content).map fun x => (.double x, tokens)
  | .string content :: .cast :: .word "bytea" :: tokens =>
      (readBytea? content.toList).map fun bytes => (.bytes bytes, tokens)
  | .string _ :: .cast :: _ => none
  | .string content :: tokens => some (.string content, tokens)
  | .word "date" :: .string content :: tokens =>
      (readDate? content.toList).map fun day => (.date day, tokens)
  | .word "time" :: .string content :: tokens =>
      (readTime? content.toList).map fun clock => (.time clock, tokens)
  | .word "timestamp" :: .string content :: tokens =>
      (readTimestamp? content.toList).map fun (day, clock) => (.timestamp day clock, tokens)
  | _ => none

theorem readIsoDate?_storable {day : Date} (rest : List Char)
    (storable : StorageIssue.ofDate? day = none) :
    readIsoDate? (day.text ++ rest) = some (day, rest) := by
  have inside : StorageIssue.leastYear ≤ day.year ∧ day.year ≤ StorageIssue.greatestYear := by
    by_contra outside
    rw [StorageIssue.ofDate?, if_neg outside] at storable
    contradiction
  unfold StorageIssue.leastYear StorageIssue.greatestYear at inside
  exact readIsoDate?_text rest (by omega)

theorem readDate?_storable {day : Date} (storable : StorageIssue.ofDate? day = none) :
    readDate? day.text = some day := by
  have read := readIsoDate?_storable [] storable
  rw [List.append_nil] at read
  rw [readDate?, read]

theorem readTime?_storable {clock : Time} (storable : StorageIssue.ofTime? clock = none) :
    readTime? clock.microText = some clock := by
  simp only [StorageIssue.ofTime?] at storable
  split at storable
  · contradiction
  rename_i noLeap
  split at storable
  · contradiction
  rename_i whole
  have read := readIsoTime?_microText [] (Bool.eq_false_iff.mpr noLeap) (not_not.mp whole)
  rw [List.append_nil] at read
  rw [readTime?, read]

theorem readTimestamp?_storable {day : Date} {clock : Time}
    (dayStorable : StorageIssue.ofDate? day = none)
    (clockStorable : StorageIssue.ofTime? clock = none) :
    readTimestamp? (day.text ++ ' ' :: clock.microText) = some (day, clock) := by
  simp only [readTimestamp?, readIsoDate?_storable _ dayStorable,
    readTime?_storable clockStorable, Option.map_some]

/-- Every literal that can be stored reads back. -/
theorem reads_literal {literal : Literal} (storable : literal.IsStorable) :
    Reads [.cast] readLiteral literal.tokens literal.canonical := by
  intro rest apart
  cases literal with
  | null => rfl
  | string content =>
      cases rest with
      | nil => rfl
      | cons token rest =>
          cases token with
          | cast => simp at apart
          | _ => rfl
  | boolean truth => cases truth <;> rfl
  | integer n => rfl
  | real x =>
      change (readNumber? .single (numberText x)).map (fun x => (Literal.real x, rest)) = _
      rw [readNumber?_numberText searchable_single]
      rfl
  | double x =>
      change (readNumber? .double (numberText x)).map (fun x => (Literal.double x, rest)) = _
      rw [readNumber?_numberText searchable_double]
      rfl
  | bytes content =>
      change (readBytea? (String.ofList ('\\' :: 'x' :: content.flatMap Hex.ofByte)).toList).map
        (fun bytes => (Literal.bytes bytes, rest)) = _
      rw [String.toList_ofList, readBytea?, Hex.readBytes?_flatMap_ofByte]
      rfl
  | date day =>
      change (readDate? (String.ofList day.text).toList).map
        (fun day => (Literal.date day, rest)) = _
      rw [String.toList_ofList, readDate?_storable storable]
      rfl
  | time clock =>
      change (readTime? (String.ofList clock.microText).toList).map
        (fun clock => (Literal.time clock, rest)) = _
      rw [String.toList_ofList, readTime?_storable storable]
      rfl
  | timestamp day clock =>
      change (readTimestamp? (String.ofList (day.text ++ ' ' :: clock.microText)).toList).map
        (fun (day, clock) => (Literal.timestamp day clock, rest)) = _
      rw [String.toList_ofList, readTimestamp?_storable storable.1 storable.2]
      rfl

end Sql

end TableStore
