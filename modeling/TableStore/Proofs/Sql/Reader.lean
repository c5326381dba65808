import TableStore.Proofs.Sql.Lexer

/-!
# Readers of tokens

A reader takes a value off the front of the tokens of a statement. Which tokens it takes may
depend on the one behind them: a cast behind a constant belongs to the constant, and a further
conjunct to a conjunction. So a reader is correct for some tokens when it takes exactly these,
whatever stands behind them that could not belong to them.

Items with separators between them are read one after another, so a list is read back when each
of its items is.
-/

namespace TableStore.Sql

/-- A reader takes a value off the front of the tokens. -/
abbrev TokenReader (α : Type) := List Token → Option (α × List Token)

variable {α : Type} {stops : List Token}

/-- Whether some tokens end, or go on with none of the given ones. -/
def StopsBefore (stops : List Token) (tokens : List Token) : Prop :=
  ∀ token ∈ tokens.head?, token ∉ stops

@[simp]
theorem stopsBefore_nil : StopsBefore stops [] := by
  simp [StopsBefore]

@[simp]
theorem stopsBefore_cons {token : Token} {rest : List Token} :
    StopsBefore stops (token :: rest) ↔ token ∉ stops := by
  simp [StopsBefore]

@[simp]
theorem stopsBefore_of_none (tokens : List Token) : StopsBefore [] tokens := by
  simp [StopsBefore]

theorem StopsBefore.mono {fewer tokens : List Token} (apart : StopsBefore stops tokens)
    (included : fewer ⊆ stops) : StopsBefore fewer tokens := fun token member stop =>
  apart token member (included stop)

/-- Whether a reader takes exactly the given tokens for a value when none of the stops
follows. -/
def Reads (stops : List Token) (reader : TokenReader α) (tokens : List Token) (value : α) :
    Prop :=
  ∀ rest, StopsBefore stops rest → reader (tokens ++ rest) = some (value, rest)

/-- The value that a reader takes from all the tokens. -/
def readAll? (reader : TokenReader α) (tokens : List Token) : Option α :=
  match reader tokens with
  | some (value, []) => some value
  | _ => none

theorem readAll?_eq {reader : TokenReader α} {tokens : List Token} {value : α}
    (read : reader tokens = some (value, [])) : readAll? reader tokens = some value := by
  rw [readAll?, read]

theorem Reads.readAll? {reader : TokenReader α} {tokens : List Token} {value : α}
    (reads : Reads stops reader tokens value) : readAll? reader tokens = some value := by
  have all := reads [] stopsBefore_nil
  rw [List.append_nil] at all
  exact readAll?_eq all

/-- A reader of the values that a function gives. -/
def mapRead {β : Type} (f : α → β) (reader : TokenReader α) : TokenReader β := fun tokens =>
  (reader tokens).map fun (value, tokens) => (f value, tokens)

theorem Reads.map {β : Type} {reader : TokenReader α} {tokens : List Token} {value : α}
    (f : α → β) (reads : Reads stops reader tokens value) :
    Reads stops (mapRead f reader) tokens (f value) := by
  intro rest apart
  rw [mapRead, reads rest apart]
  rfl

/-- The tokens behind a given one. -/
def skip? (token : Token) : List Token → Option (List Token)
  | [] => none
  | first :: rest => if first = token then some rest else none

@[simp]
theorem skip?_cons (token : Token) (rest : List Token) :
    skip? token (token :: rest) = some rest :=
  if_pos rfl

theorem skip?_of_stopsBefore {token : Token} {tokens : List Token}
    (apart : StopsBefore (token :: stops) tokens) : skip? token tokens = none := by
  cases tokens with
  | nil => rfl
  | cons first rest =>
      rw [stopsBefore_cons, List.mem_cons, not_or] at apart
      exact if_neg apart.1

/-- Read at least one item, with a separator between any two; the number bounds the items. -/
def readSeparated (separator : Token) (item : TokenReader α) : Nat → TokenReader (List α)
  | 0, _ => none
  | most + 1, tokens => do
      let (first, tokens) ← item tokens
      match skip? separator tokens with
      | none => return ([first], tokens)
      | some tokens => do
          let (more, tokens) ← readSeparated separator item most tokens
          return (first :: more, tokens)

/-- Items are read back one after another when no further separator follows. -/
theorem reads_readSeparated {β : Type} {separator : Token} {item : TokenReader α}
    {spell : β → List Token} {value : β → α} {items : List β} {most : Nat}
    (reads : ∀ x ∈ items, Reads stops item (spell x) (value x)) (nonempty : items ≠ [])
    (enough : items.length ≤ most) (noStop : separator ∉ stops) :
    Reads (separator :: stops) (readSeparated separator item most)
      ([separator].intercalate (items.map spell)) (items.map value) := by
  intro rest apart
  induction items generalizing most with
  | nil => contradiction
  | cons x items ih =>
      cases most with
      | zero => simp at enough
      | succ most =>
          have first := reads x List.mem_cons_self
          cases items with
          | nil =>
              have last := first rest (apart.mono (List.subset_cons_self separator stops))
              simp [readSeparated, last, skip?_of_stopsBefore apart]
          | cons y items =>
              have more := ih (fun z member => reads z (List.mem_cons_of_mem x member))
                (by simp) (Nat.le_of_succ_le_succ enough)
              have followed := fun rest => first (separator :: rest) (stopsBefore_cons.mpr noStop)
              simp only [List.map_cons, List.intercalate_cons_cons, List.append_assoc,
                List.cons_append, List.nil_append] at more ⊢
              simp only [readSeparated, followed, skip?_cons, more, Option.bind_eq_bind,
                Option.bind_some, pure]

theorem length_le_intercalate (separator : Token) (pieces : List (List Token)) :
    pieces.length ≤ ([separator].intercalate pieces).length + 1 := by
  induction pieces with
  | nil => simp
  | cons piece pieces ih =>
      cases pieces with
      | nil => simp
      | cons next pieces =>
          simp only [List.intercalate_cons_cons, List.length_append, List.length_cons,
            List.length_nil] at ih ⊢
          omega

/-- Read at least one item with separators between them; there are no more items than
tokens. -/
def readList (separator : Token) (item : TokenReader α) : TokenReader (List α) := fun tokens =>
  readSeparated separator item (tokens.length + 1) tokens

theorem reads_readList {β : Type} {separator : Token} {item : TokenReader α}
    {spell : β → List Token} {value : β → α} {items : List β}
    (reads : ∀ x ∈ items, Reads stops item (spell x) (value x)) (nonempty : items ≠ [])
    (noStop : separator ∉ stops) :
    Reads (separator :: stops) (readList separator item)
      ([separator].intercalate (items.map spell)) (items.map value) := by
  intro rest apart
  have enough := length_le_intercalate separator (items.map spell)
  rw [List.length_map] at enough
  refine reads_readSeparated reads nonempty ?_ noStop rest apart
  rw [List.length_append]
  omega

/-- A list may have a single item. -/
theorem Reads.single {separator : Token} {item : TokenReader α} {tokens : List Token}
    {value : α} (reads : Reads stops item tokens value) :
    Reads (separator :: stops) (readList separator item) tokens [value] := by
  intro rest apart
  have first := reads rest (apart.mono (List.subset_cons_self separator stops))
  simp [readList, readSeparated, first, skip?_of_stopsBefore apart]

end TableStore.Sql
