import TableStore.Decimal.Digits
import TableStore.Sql.Condition

/-!
# Tokens of a statement

The lexical rules under which a server reads a statement, for the part of the language
that statements are written in. A lexer is in one state between two characters: a
character that can belong to the token being read does, and any other character ends that
token and begins the next. Whatever lies outside this part of the language (comments,
operators of other signs, numbers with letters, bit strings) is refused, so a text is never
read in another way than a server reads it.

Texts are put together from pieces. The tokens of two pieces are those of the whole when
the second begins with a character that the last token of the first cannot take in.
-/

namespace TableStore.Sql

/-- A token of a statement. Names are quoted, words are not and stand in small letters. -/
inductive Token where
  | name (name : String)
  | word (word : String)
  | string (content : String)
  | integer (number : Int)
  | operator (operator : Operator)
  | opening
  | closing
  | comma
  | point
  | star
  | cast
deriving DecidableEq, Repr

/-- What is being read between two characters. -/
inductive Lexing where
  | between
  | name (read : List Char)
  | nameMark (read : List Char)
  | string (escapes : Bool) (read : List Char)
  | stringMark (escapes : Bool) (read : List Char)
  | backslash (read : List Char)
  | word (read : List Char)
  | number (negative : Bool) (read : List Char)
  | sign (read : List Char)
  | refused
deriving DecidableEq, Repr

/-- Whether a character may begin a word. -/
def isWordStart (c : Char) : Bool :=
  c.isAlpha || c == '_'

/-- Whether a character may stand in a word. -/
def isWordPart (c : Char) : Bool :=
  c.isAlphanum || c == '_' || c == '$'

/-- Whether a character is part of an operator. -/
def isSign (c : Char) : Bool :=
  c ∈ ['+', '-', '*', '/', '<', '>', '=', '~', '!', '@', '#', '%', '^', '&', '|', '?', '\x60', ':']

/-- The character that a backslash and another character stand for in an escape string;
escapes by number are refused. -/
def escaped? (c : Char) : Option Char :=
  if c.isDigit || c ∈ ['x', 'u', 'U'] then none
  else if c = 'b' then some '\x08'
  else if c = 'f' then some '\x0c'
  else if c = 'n' then some '\n'
  else if c = 'r' then some '\r'
  else if c = 't' then some '\t'
  else some c

/-- The token that a run of signs is. -/
def signToken? (signs : List Char) : Option Token :=
  if signs = ['='] then some (.operator .equal)
  else if signs = ['>'] then some (.operator .greater)
  else if signs = ['>', '='] then some (.operator .greaterOrEqual)
  else if signs = ['<'] then some (.operator .less)
  else if signs = ['<', '='] then some (.operator .lessOrEqual)
  else if signs = ['*'] then some .star
  else if signs = [':', ':'] then some .cast
  else none

namespace Lexing

/-- The state after a character that belongs to the token being read. A mark inside quotes
may be the first of two, so it ends the token only if another character follows. -/
def extend? : Lexing → Char → Option Lexing
  | .between, _ => none
  | .name read, c => if c = '"' then some (.nameMark read) else some (.name (read ++ [c]))
  | .nameMark read, c => if c = '"' then some (.name (read ++ [c])) else none
  | .string escapes read, c =>
      if c = '\'' then some (.stringMark escapes read)
      else if escapes ∧ c = '\\' then some (.backslash read)
      else some (.string escapes (read ++ [c]))
  | .stringMark escapes read, c =>
      if c = '\'' then some (.string escapes (read ++ [c])) else none
  | .backslash read, c => (escaped? c).map fun d => .string true (read ++ [d])
  | .word read, c =>
      if isWordPart c then some (.word (read ++ [c]))
      else if c = '\'' then
        if read = ['E'] ∨ read = ['e'] then some (.string true []) else some .refused
      else none
  | .number negative read, c =>
      if isWordPart c ∨ c = '.' then some (.number negative (read ++ [c])) else none
  | .sign read, c =>
      if isSign c then some (.sign (read ++ [c]))
      else if read = ['-'] ∧ c.isDigit then some (.number true [c])
      else none
  | .refused, _ => some .refused

/-- The tokens that have been read if the text ends here, or if the next character does not
belong to them. -/
def tokens? : Lexing → Option (List Token)
  | .between => some []
  | .nameMark read => some [.name (String.ofList read)]
  | .stringMark _ read => some [.string (String.ofList read)]
  | .word read => some [.word (String.ofList (read.map Char.toLower))]
  | .number negative read =>
      (Decimal.readNat? read).map fun (n : Nat) => [.integer (if negative then -(n : Int) else n)]
  | .sign read => (signToken? read).map fun token => [token]
  | _ => none

/-- The tokens and the state that a first character of a token leads to. -/
def start? (c : Char) : Option (List Token × Lexing) :=
  if c.isDigit then some ([], .number false [c])
  else if isWordStart c then some ([], .word [c])
  else if isSign c then some ([], .sign [c])
  else
    match c with
    | ' ' => some ([], .between)
    | '(' => some ([.opening], .between)
    | ')' => some ([.closing], .between)
    | ',' => some ([.comma], .between)
    | '.' => some ([.point], .between)
    | '"' => some ([], .name [])
    | '\'' => some ([], .string false [])
    | _ => none

/-- The tokens that a character completes, and the state after it. -/
def step? (state : Lexing) (c : Char) : Option (List Token × Lexing) :=
  match state.extend? c with
  | some state => some ([], state)
  | none =>
      state.tokens?.bind fun ended =>
        (start? c).map fun (begun, state) => (ended ++ begun, state)

/-- The tokens that a text completes from a state, and the state after it. -/
def run? (state : Lexing) : List Char → Option (List Token × Lexing)
  | [] => some ([], state)
  | c :: rest =>
      (state.step? c).bind fun (tokens, state) =>
        (run? state rest).map fun (more, state) => (tokens ++ more, state)

end Lexing

/-- The tokens of a text. -/
def tokenize (text : List Char) : Option (List Token) :=
  (Lexing.between.run? text).bind fun (tokens, state) => state.tokens?.map (tokens ++ ·)

/-- Whether a text is empty or begins with a blank, a comma or a parenthesis, none of which
belongs to a token that was begun before. -/
def StartsApart (text : List Char) : Prop :=
  ∀ c ∈ text.head?, c ∈ [' ', ',', '(', ')']

namespace Lexing

theorem run?_append (state : Lexing) (first second : List Char) :
    state.run? (first ++ second) =
      (state.run? first).bind fun (tokens, state) =>
        (state.run? second).map fun (more, state) => (tokens ++ more, state) := by
  induction first generalizing state with
  | nil =>
      cases run : state.run? second <;> simp [run?, run]
  | cons c first ih =>
      simp only [List.cons_append, run?]
      cases step : state.step? c with
      | none => rfl
      | some stepped =>
          simp only [Option.bind_some, ih]
          cases state' : stepped.2.run? first with
          | none => rfl
          | some reached =>
              cases run : reached.2.run? second <;> simp [run]

@[simp]
theorem step?_between (c : Char) : Lexing.between.step? c = start? c := by
  cases begun : start? c <;> simp [step?, extend?, tokens?, begun]

/-- A character that does not belong to the tokens that have been read is read as it would be
after them. -/
theorem run?_of_extend?_eq_none {state : Lexing} {ended : List Token} {c : Char}
    {rest : List Char} (apart : state.extend? c = none)
    (tokens : state.tokens? = some ended) :
    state.run? (c :: rest) =
      (Lexing.between.run? (c :: rest)).map fun (more, state) => (ended ++ more, state) := by
  have stepped : state.step? c =
      (start? c).map fun (begun, state) => (ended ++ begun, state) := by
    simp only [step?, apart, tokens, Option.bind_some]
  simp only [run?, stepped, step?_between]
  cases start? c with
  | none => rfl
  | some begun => cases run : begun.2.run? rest <;> simp [run]

/-- No state that a token may end in takes in a blank, a comma or a parenthesis. -/
theorem extend?_eq_none_of_apart {state : Lexing} {ended : List Token} {c : Char}
    (tokens : state.tokens? = some ended) (apart : c ∈ [' ', ',', '(', ')']) :
    state.extend? c = none := by
  simp only [List.mem_cons, List.not_mem_nil, or_false] at apart
  cases state with
  | name | string | backslash | refused => simp [tokens?] at tokens
  | between => rfl
  | nameMark | stringMark | word | number | sign =>
      rcases apart with rfl | rfl | rfl | rfl <;> simp [extend?, isWordPart, isSign]

end Lexing

/-- The tokens of a text whose next character its last token cannot take in stay what they are
whatever follows. -/
theorem tokenize_append_of_state {first second : List Char} {completed ended : List Token}
    {state : Lexing} (reads : Lexing.between.run? first = some (completed, state))
    (tokens : state.tokens? = some ended)
    (apart : ∀ c ∈ second.head?, state.extend? c = none) :
    tokenize (first ++ second) = (tokenize second).map (completed ++ ended ++ ·) := by
  rw [tokenize, Lexing.run?_append, reads]
  cases second with
  | nil =>
      have nothing : tokenize [] = some [] := rfl
      simp [Lexing.run?, nothing, tokens]
  | cons c rest =>
      have headApart : state.extend? c = none := apart c rfl
      simp only [Option.bind_some, Lexing.run?_of_extend?_eq_none headApart tokens, tokenize]
      cases run : Lexing.between.run? (c :: rest) with
      | none => rfl
      | some reached =>
          cases last : reached.2.tokens? <;> simp [last]

/-- A text that was read to its end between two tokens is independent of what follows. -/
theorem tokenize_append_of_between {first : List Char} {completed : List Token}
    (second : List Char)
    (reads : Lexing.between.run? first = some (completed, .between)) :
    tokenize (first ++ second) = (tokenize second).map (completed ++ ·) := by
  rw [tokenize_append_of_state reads rfl fun _ _ => rfl, List.append_nil]

/-- The tokens of two texts are those of the whole when the second starts apart. -/
theorem tokenize_append {first second : List Char} {a : List Token}
    (firstTokens : tokenize first = some a) (apart : StartsApart second) :
    tokenize (first ++ second) = (tokenize second).map (a ++ ·) := by
  obtain ⟨⟨completed, state⟩, reads, ended⟩ := Option.bind_eq_some_iff.mp firstTokens
  obtain ⟨last, tokens, rfl⟩ := Option.map_eq_some_iff.mp ended
  exact tokenize_append_of_state reads tokens fun c member =>
    Lexing.extend?_eq_none_of_apart tokens (apart c member)

end TableStore.Sql
