import TableStore.Proofs.Decimal.Digits
import TableStore.Proofs.Sql.Lexer

/-!
# How pieces of text are read

The tokens of quoted names, of strings and of integers. Doubling keeps every quote and every
backslash of a text inside its quotes, so each of them is read as one token that holds the
whole text, whatever characters occur in it.

Pieces stand apart from each other: what follows a piece begins with a blank, a comma or a
parenthesis. The tokens of a text are then the tokens of its pieces in order.
-/

namespace TableStore.Sql

namespace Lexing

theorem run?_cons_of_extend? {state : Lexing} (next : Lexing) {c : Char} {rest : List Char}
    (extended : state.extend? c = some next) :
    state.run? (c :: rest) = next.run? rest := by
  cases run : next.run? rest <;> simp [run?, step?, extended, run]

/-- Reading on through characters that belong to the token does not complete any. -/
theorem run?_append_of_run? {state next : Lexing} {first second : List Char}
    (reads : state.run? first = some ([], next)) :
    state.run? (first ++ second) = next.run? second := by
  cases run : next.run? second <;> simp [run?_append, reads, run]

theorem run?_between_cons (next : Lexing) {c : Char} {rest : List Char} {tokens : List Token}
    (starts : start? c = some (tokens, next)) :
    Lexing.between.run? (c :: rest) =
      (next.run? rest).map fun (more, state) => (tokens ++ more, state) := by
  simp [run?, starts]

/-- Inside a quoted name every character is read as itself once quotes are doubled. -/
theorem run?_double_name (read name : List Char) :
    (Lexing.name read).run? (double '"' name) = some ([], .name (read ++ name)) := by
  induction name generalizing read with
  | nil => simp [double, run?]
  | cons c name ih =>
      by_cases quote : c = '"'
      · subst c
        rw [double, if_pos rfl, run?_cons_of_extend? (.nameMark read) rfl,
          run?_cons_of_extend? (.name (read ++ ['"'])) rfl, ih]
        simp
      · rw [double, if_neg quote,
          run?_cons_of_extend? (.name (read ++ [c])) (by simp [extend?, quote]), ih]
        simp

theorem run?_identifierChars (name : List Char) :
    Lexing.between.run? (identifierChars name) = some ([], .nameMark name) := by
  rw [identifierChars, run?_between_cons (.name []) rfl,
    run?_append_of_run? (run?_double_name [] name),
    run?_cons_of_extend? (.nameMark name) rfl]
  rfl

/-- Inside an escape string every character is read as itself once quotes and backslashes are
doubled. -/
theorem run?_double_string (read text : List Char) :
    (Lexing.string true read).run? (double '\'' (double '\\' text)) =
      some ([], .string true (read ++ text)) := by
  induction text generalizing read with
  | nil => simp [double, run?]
  | cons c text ih =>
      by_cases backslash : c = '\\'
      · subst c
        rw [double, if_pos rfl, double, if_neg (by decide), double, if_neg (by decide),
          run?_cons_of_extend? (.backslash read) rfl,
          run?_cons_of_extend? (.string true (read ++ ['\\'])) rfl, ih]
        simp
      · rw [double, if_neg backslash]
        by_cases quote : c = '\''
        · subst c
          rw [double, if_pos rfl, run?_cons_of_extend? (.stringMark true read) rfl,
            run?_cons_of_extend? (.string true (read ++ ['\''])) rfl, ih]
          simp
        · rw [double, if_neg quote,
            run?_cons_of_extend? (.string true (read ++ [c]))
              (by simp [extend?, quote, backslash]), ih]
          simp

theorem run?_stringChars (text : List Char) :
    Lexing.between.run? (stringChars text) = some ([], .stringMark true text) := by
  rw [stringChars, run?_between_cons (.word ['E']) rfl,
    run?_cons_of_extend? (.string true []) rfl,
    run?_append_of_run? (run?_double_string [] text),
    run?_cons_of_extend? (.stringMark true text) rfl]
  rfl

/-- Inside a plain string every character but the quote is read as itself. -/
theorem run?_plain {text : List Char} (read : List Char) (noQuote : '\'' ∉ text) :
    (Lexing.string false read).run? text = some ([], .string false (read ++ text)) := by
  induction text generalizing read with
  | nil => simp [run?]
  | cons c text ih =>
      simp only [List.mem_cons, not_or] at noQuote
      obtain ⟨headPlain, restPlain⟩ := noQuote
      rw [run?_cons_of_extend? (.string false (read ++ [c]))
        (by simp [extend?, Ne.symm headPlain]), ih _ restPlain]
      simp

theorem run?_plainString {text : List Char} (noQuote : '\'' ∉ text) :
    Lexing.between.run? ('\'' :: (text ++ ['\''])) = some ([], .stringMark false text) := by
  rw [run?_between_cons (.string false []) rfl,
    run?_append_of_run? (run?_plain [] noQuote),
    run?_cons_of_extend? (.stringMark false text) rfl]
  rfl

theorem run?_digits {text : List Char} (negative : Bool) (read : List Char)
    (allDigits : ∀ c ∈ text, c.isDigit = true) :
    (Lexing.number negative read).run? text = some ([], .number negative (read ++ text)) := by
  induction text generalizing read with
  | nil => simp [run?]
  | cons c text ih =>
      have headDigit : c.isDigit = true := allDigits c List.mem_cons_self
      have restDigits : ∀ d ∈ text, d.isDigit = true := fun d member =>
        allDigits d (List.mem_cons_of_mem c member)
      rw [run?_cons_of_extend? (.number negative (read ++ [c]))
        (by simp [extend?, isWordPart, Char.isAlphanum, headDigit]), ih _ restDigits]
      simp

theorem run?_between_digits {text : List Char} (nonempty : text ≠ [])
    (allDigits : ∀ c ∈ text, c.isDigit = true) :
    Lexing.between.run? text = some ([], .number false text) := by
  cases text with
  | nil => contradiction
  | cons c text =>
      have starts : start? c = some ([], .number false [c]) := by
        unfold start?
        rw [if_pos (allDigits c List.mem_cons_self)]
      rw [run?_between_cons _ starts, run?_digits false [c] fun d member =>
        allDigits d (List.mem_cons_of_mem c member)]
      rfl

theorem run?_between_minus {text : List Char} (nonempty : text ≠ [])
    (allDigits : ∀ c ∈ text, c.isDigit = true) :
    Lexing.between.run? ('-' :: text) = some ([], .number true text) := by
  cases text with
  | nil => contradiction
  | cons c text =>
      have headDigit : c.isDigit = true := allDigits c List.mem_cons_self
      have unsigned : isSign c = false := by
        cases signed : isSign c with
        | false => rfl
        | true =>
            simp only [isSign, decide_eq_true_eq, List.mem_cons, List.not_mem_nil,
              or_false] at signed
            rcases signed with rfl | rfl | rfl | rfl | rfl | rfl | rfl | rfl | rfl | rfl | rfl |
              rfl | rfl | rfl | rfl | rfl | rfl | rfl <;> simp at headDigit
      have extended : (Lexing.sign ['-']).extend? c = some (.number true [c]) := by
        simp [extend?, unsigned, headDigit]
      rw [run?_between_cons (.sign ['-']) rfl, run?_cons_of_extend? _ extended,
        run?_digits true [c] fun d member => allDigits d (List.mem_cons_of_mem c member)]
      rfl

end Lexing

theorem tokenize_identifierChars (name : List Char) :
    tokenize (identifierChars name) = some [.name (String.ofList name)] := by
  rw [tokenize, Lexing.run?_identifierChars]
  rfl

/-- Whether a text has the given tokens. -/
def Spells (text : String) (tokens : List Token) : Prop :=
  tokenize text.toList = some tokens

theorem spells_quoteIdentifier (name : String) : Spells (quoteIdentifier name) [.name name] := by
  rw [Spells, toList_quoteIdentifier, tokenize_identifierChars, String.ofList_toList]

theorem spells_quoteString (content : String) : Spells (quoteString content) [.string content] := by
  rw [Spells, toList_quoteString, tokenize, Lexing.run?_stringChars]
  simp [Lexing.tokens?]

theorem tokenize_plainString {content : List Char} (noQuote : '\'' ∉ content) :
    tokenize ('\'' :: (content ++ ['\''])) = some [.string (String.ofList content)] := by
  rw [tokenize, Lexing.run?_plainString noQuote]
  rfl

theorem spells_integerText (n : Int) : Spells (integerText n) [.integer n] := by
  have allDigits : ∀ c ∈ Decimal.digits n.natAbs, c.isDigit = true := fun _ =>
    Decimal.isDigit_of_mem_digits
  rw [Spells, integerText, String.toList_ofList, Decimal.signed, tokenize]
  by_cases negative : n < 0
  · have value : -(n.natAbs : Int) = n := by omega
    rw [if_pos negative, Lexing.run?_between_minus (Decimal.digits_ne_nil _) allDigits]
    simp only [Option.bind_some, Lexing.tokens?, Decimal.readNat?_digits, Option.map_some, if_true,
      value, List.nil_append]
  · have value : (n.natAbs : Int) = n := by omega
    rw [if_neg negative, Lexing.run?_between_digits (Decimal.digits_ne_nil _) allDigits]
    simp only [Option.bind_some, Lexing.tokens?, Decimal.readNat?_digits, Option.map_some,
      Bool.false_eq_true, if_false, value, List.nil_append]

/-- Whether a text begins with a character that no token before it takes in. -/
def beginsApart (text : String) : Bool :=
  text.toList.head?.any fun c => c ∈ [' ', ',', '(', ')']

theorem startsApart_append {text : String} (apart : beginsApart text = true) (rest : List Char) :
    StartsApart (text.toList ++ rest) := by
  unfold beginsApart at apart
  intro c member
  cases characters : text.toList with
  | nil => simp [characters] at apart
  | cons d more =>
      simp only [characters, List.cons_append, List.head?_cons, Option.mem_some_iff,
        Option.any_some, decide_eq_true_eq] at apart member
      exact member ▸ apart

namespace Spells

variable {a b mark : String} {s t : List Token}

/-- A piece and another that is empty or stands apart. -/
theorem before (first : Spells a s) (apart : StartsApart b.toList) (second : Spells b t) :
    Spells (a ++ b) (s ++ t) := by
  rw [Spells, String.toList_append, tokenize_append first apart, second]
  rfl

/-- A piece and another that stands apart. -/
theorem append (first : Spells a s) (apart : beginsApart b = true) (second : Spells b t) :
    Spells (a ++ b) (s ++ t) := by
  have startsApart := startsApart_append apart []
  rw [List.append_nil] at startsApart
  exact first.before startsApart second

/-- A constant that ends between two tokens, and a piece. -/
theorem after (marks : List Token)
    (reads : Lexing.between.run? mark.toList = some (marks, .between))
    (second : Spells b t) : Spells (mark ++ b) (marks ++ t) := by
  rw [Spells, String.toList_append, tokenize_append_of_between _ reads, second]
  rfl

/-- A piece, a constant that stands apart and ends between two tokens, and another piece. -/
theorem join (marks : List Token) (first : Spells a s) (apart : beginsApart mark = true)
    (reads : Lexing.between.run? mark.toList = some (marks, .between))
    (second : Spells b t) : Spells (a ++ (mark ++ b)) (s ++ (marks ++ t)) := by
  have rest : Spells (mark ++ b) (marks ++ t) := after marks reads second
  rw [Spells, String.toList_append] at rest ⊢
  rw [String.toList_append, tokenize_append first (startsApart_append apart _), rest]
  rfl

/-- A quoted name and a piece that does not begin with a mark of names. -/
theorem named (name : String) (noMark : '"' ∉ b.toList.head?) (second : Spells b t) :
    Spells (quoteIdentifier name ++ b) (.name name :: t) := by
  have quoted : Lexing.between.run? (quoteIdentifier name).toList =
      some ([], .nameMark name.toList) := by
    rw [toList_quoteIdentifier, Lexing.run?_identifierChars]
  have apart : ∀ c ∈ b.toList.head?, (Lexing.nameMark name.toList).extend? c = none := by
    intro c member
    have notMark : c ≠ '"' := fun isMark => noMark (isMark ▸ member)
    exact if_neg notMark
  rw [Spells, String.toList_append, tokenize_append_of_state quoted rfl apart, second]
  simp

/-- Pieces with constants between them. -/
theorem intercalate {β : Type} (marks : List Token) {text : β → String}
    {spell : β → List Token} {items : List β}
    (apart : beginsApart mark = true)
    (reads : Lexing.between.run? mark.toList = some (marks, .between))
    (spelled : ∀ x ∈ items, Spells (text x) (spell x)) :
    Spells (mark.intercalate (items.map text)) (marks.intercalate (items.map spell)) := by
  rw [Spells, String.toList_intercalate, List.map_map]
  induction items with
  | nil => rfl
  | cons x items ih =>
      have first := spelled x List.mem_cons_self
      cases items with
      | nil => simpa [Spells] using first
      | cons y items =>
          have more := ih fun z member => spelled z (List.mem_cons_of_mem x member)
          simp only [List.map_cons, List.intercalate_cons_cons, List.append_assoc] at more ⊢
          rw [Function.comp_apply, tokenize_append first (startsApart_append apart _),
            tokenize_append_of_between _ reads, more]
          simp

end Spells

end TableStore.Sql
