import TableStore.Proofs.Json.Numeral

/-!
# JSON read back from its text

A value is written in a way that can be read when its numbers are well-formed numerals, its strings
are texts and its members have names. Such a value is read back from its text in either layout: the
reader skips what the layout adds, and the length of the text leaves it enough steps.
-/

namespace TableStore.Json

/-! ## Strings -/

/-- A control character that is written by its number is read by its number. -/
theorem readBase?_control {c : Char} (control : c.toNat < 32) (units : List Nat)
    (rest : List Char) :
    readUnits units ('\\' :: 'u' :: (Hex.padded 4 c.toNat ++ rest)) =
      readUnits (c.toNat :: units) rest := by
  have digits : ∀ n < 32, Hex.padded 4 n =
      ['0', '0', Nat.digitChar (n / 16), Nat.digitChar (n % 16)] ∧
      Hex.readBase? 16 ['0', '0', Nat.digitChar (n / 16), Nat.digitChar (n % 16)] = some n := by
    decide
  obtain ⟨written, read⟩ := digits c.toNat control
  rw [written, List.cons_append, List.cons_append, List.cons_append, List.cons_append,
    List.nil_append, readUnits, read, Option.bind_some]

/-- A character of a string is read from its written form. -/
theorem readUnits_escapeChar (units : List Nat) (c : Char) (rest : List Char) :
    readUnits units (escapeChar c ++ rest) = readUnits (c.toNat :: units) rest := by
  unfold escapeChar
  -- seven characters have escapes of one letter
  iterate 7
    split
    · rename_i same
      subst same
      rfl
  split
  · rename_i control
    exact readBase?_control control units rest
  · rename_i noQuote noBackslash _ _ _ _ _ printed
    rw [List.singleton_append, readUnits, if_neg printed]
    · exact noQuote
    · simp [noBackslash]
    · simp [noBackslash]

theorem readUnits_stringText (units : List Nat) (text rest : List Char) :
    readUnits units (text.flatMap escapeChar ++ '"' :: rest) =
      some (units.reverse ++ text.map Char.toNat, rest) := by
  induction text generalizing units with
  | nil => simp [readUnits]
  | cons c text ih =>
      rw [List.flatMap_cons, List.append_assoc, readUnits_escapeChar, ih]
      simp

/-- No character is half of a pair. -/
theorem not_surrogate (c : Char) : ¬(0xD800 ≤ c.toNat ∧ c.toNat < 0xE000) := by
  have valid := c.valid
  unfold UInt32.isValidChar Nat.isValidChar at valid
  unfold Char.toNat
  omega

theorem joinPairs?_map (text : List Char) : joinPairs? (text.map Char.toNat) = some text := by
  induction text with
  | nil => rfl
  | cons c text ih =>
      have whole := not_surrogate c
      cases text with
      | nil =>
          rw [List.map_cons, List.map_nil, joinPairs?, if_neg whole, Char.ofNat_toNat]
      | cons d text =>
          rw [List.map_cons, List.map_cons, joinPairs?, if_neg (by omega), if_neg (by omega),
            ← List.map_cons, ih, Option.map_some, Char.ofNat_toNat]

/-- A text is read from its written form. -/
theorem readString_stringText (text : String) (rest : List Char) :
    readString (text.toList.flatMap escapeChar ++ '"' :: rest) = some (some text, rest) := by
  rw [readString, readUnits_stringText, Option.map_some]
  dsimp only
  rw [List.reverse_nil, List.nil_append, joinPairs?_map, Option.map_some, String.ofList_toList]

/-! ## Blanks -/

/-- Nothing is skipped in front of a character that is no blank. -/
theorem skip_cons {c : Char} (shown : isBlank c = false) (rest : List Char) :
    skip (c :: rest) = c :: rest := by
  simp [skip, shown]

theorem skip_lineStart (layout : Layout) (depth : Nat) (rest : List Char) :
    skip (layout.lineStart depth ++ rest) = skip rest := by
  apply List.dropWhile_append_of_pos
  intro c member
  cases layout with
  | compact => cases member
  | indented =>
      rcases List.mem_cons.mp member with rfl | blank
      · rfl
      · rw [List.eq_of_mem_replicate blank]
        rfl

theorem endsNumber_comma (rest : List Char) : EndsNumber (',' :: rest) := by
  rintro _ ⟨⟩
  decide

/-- A number ends where a line starts or a part is closed. -/
theorem endsNumber_lineStart (layout : Layout) (depth : Nat) {c : Char}
    (closing : c = ']' ∨ c = '\x7d') (rest : List Char) :
    EndsNumber (layout.lineStart depth ++ c :: rest) := by
  cases layout with
  | compact =>
      rintro _ ⟨⟩
      rcases closing with rfl | rfl <;> decide
  | indented =>
      rintro _ ⟨⟩
      decide

/-! ## Values -/

/-- Whether a value is written in a way that can be read. -/
inductive IsWritten : Json → Prop
  | null : IsWritten .null
  | bool (truth : Bool) : IsWritten (.bool truth)
  | number {n : Numeral} (wellFormed : n.IsWellFormed) : IsWritten (.number n.chars)
  | string (text : String) : IsWritten (.string text)
  | array {elements : List Json} (each : ∀ element ∈ elements, IsWritten element) :
      IsWritten (.array elements)
  | object {members : List (Option String × Json)}
      (named : ∀ member ∈ members, member.1.isSome = true)
      (each : ∀ member ∈ members, IsWritten member.2) : IsWritten (.object members)

/-- Whether a value is read from its text at a depth, whatever follows that does not go on with a
number, as long as there are as many steps as characters. -/
def IsRead (layout : Layout) (depth : Nat) (value : Json) : Prop :=
  ∀ fuel rest, (chars layout depth value).length ≤ fuel → EndsNumber rest →
    readValue fuel (chars layout depth value ++ rest) = some (value, rest)

/-- A numeral begins with its sign or with a digit. -/
theorem Numeral.exists_chars {n : Numeral} (wellFormed : n.IsWellFormed) :
    ∃ c rest, n.chars = c :: rest ∧ (c = '-' ∨ c.isDigit = true) := by
  obtain ⟨negative, whole, fraction, exponent⟩ := n
  obtain ⟨d, ds, begins⟩ := List.exists_cons_of_ne_nil wellFormed.whole.1
  dsimp only at begins
  cases negative with
  | true => exact ⟨_, _, rfl, .inl rfl⟩
  | false =>
      refine ⟨d, _, by rw [chars, begins]; rfl, .inr ?_⟩
      exact wellFormed.whole.2 d (begins ▸ List.mem_cons_self)

theorem Numeral.chars_append_ne {n : Numeral} (wellFormed : n.IsWellFormed)
    (rest more : List Char) {c : Char} (other : ¬(c = '-' ∨ c.isDigit = true)) :
    n.chars ++ rest ≠ c :: more := by
  obtain ⟨d, ds, begins, first⟩ := exists_chars wellFormed
  rw [begins, List.cons_append]
  intro same
  exact other ((List.cons.inj same).1 ▸ first)

/-- The text of a value begins with a character that is no blank and closes nothing. -/
theorem exists_chars (layout : Layout) (depth : Nat) {value : Json} (written : IsWritten value) :
    ∃ c rest, chars layout depth value = c :: rest ∧ isBlank c = false ∧ c ≠ ']' := by
  cases written with
  | null => exact ⟨_, _, rfl, rfl, by decide⟩
  | bool truth => cases truth <;> exact ⟨_, _, rfl, rfl, by decide⟩
  | string text => exact ⟨_, _, rfl, rfl, by decide⟩
  | @number n wellFormed =>
      obtain ⟨c, rest, begins, sign | digit⟩ := Numeral.exists_chars wellFormed
      · exact ⟨c, rest, begins, by rw [sign]; rfl, by rw [sign]; decide⟩
      · refine ⟨c, rest, begins, ?_, ?_⟩
        · apply Bool.eq_false_iff.mpr
          intro blank
          simp only [isBlank, Bool.or_eq_true, beq_iff_eq] at blank
          rcases blank with ((rfl | rfl) | rfl) | rfl <;> cases digit
        · rintro rfl
          cases digit
  | @array elements each => cases elements <;> exact ⟨_, _, rfl, rfl, by decide⟩
  | @object members named each =>
      cases members with
      | nil => exact ⟨_, _, rfl, rfl, by decide⟩
      | cons member members =>
          exact ⟨'\x7b', _, by rw [chars], rfl, by decide⟩

theorem skip_chars (layout : Layout) (depth : Nat) {value : Json} (written : IsWritten value)
    (rest : List Char) :
    skip (chars layout depth value ++ rest) = chars layout depth value ++ rest := by
  obtain ⟨c, more, begins, shown, -⟩ := exists_chars layout depth written
  rw [begins, List.cons_append, skip_cons shown]

theorem isRead_null (layout : Layout) (depth : Nat) : IsRead layout depth .null := by
  intro fuel rest long ends
  cases fuel with
  | zero => cases long
  | succ fuel => rfl

theorem isRead_bool (layout : Layout) (depth : Nat) (truth : Bool) :
    IsRead layout depth (.bool truth) := by
  intro fuel rest long ends
  cases truth <;> cases fuel with
  | zero => cases long
  | succ fuel => rfl

theorem isRead_string (layout : Layout) (depth : Nat) (text : String) :
    IsRead layout depth (.string text) := by
  intro fuel rest long ends
  cases fuel with
  | zero => cases long
  | succ fuel =>
      rw [chars, stringText, List.cons_append, List.append_assoc, List.singleton_append, readValue,
        readString_stringText]
      rfl

theorem isRead_number (layout : Layout) (depth : Nat) {n : Numeral} (wellFormed : n.IsWellFormed) :
    IsRead layout depth (.number n.chars) := by
  intro fuel rest long ends
  have read := readNumeral_append wellFormed ends
  obtain ⟨c, more, begins, first⟩ := Numeral.exists_chars wellFormed
  cases fuel with
  | zero => 
      rw [chars, begins] at long
      cases long
  | succ fuel =>
      have taken : (n.chars ++ rest).take ((n.chars ++ rest).length - rest.length) = n.chars := by
        simp
      rw [chars, readValue, read]
      · simp only [Option.map_some, taken]
      · simp [begins]
      all_goals
        exact fun more => Numeral.chars_append_ne wellFormed rest more (by decide)

/-! ## Arrays -/

section Arrays

variable {layout : Layout} {depth outer fuel : Nat} {text rest : List Char} {first : Json}

/-- Behind the last element the array is closed. -/
theorem readElements_last
    (read : readValue fuel (text ++ (layout.lineStart outer ++ ']' :: rest)) =
      some (first, layout.lineStart outer ++ ']' :: rest)) :
    readElements (fuel + 1) (text ++ (layout.lineStart outer ++ ']' :: rest)) =
      some ([first], rest) := by
  have closing : skip (layout.lineStart outer ++ ']' :: rest) = ']' :: rest := by
    rw [skip_lineStart, skip_cons rfl]
  simp only [readElements, read, closing, Option.bind_eq_bind, Option.bind_some, pure]

/-- Behind a comma the further elements are read. -/
theorem readElements_cons
    (read : readValue fuel (text ++ ',' :: rest) = some (first, ',' :: rest)) :
    readElements (fuel + 1) (text ++ ',' :: rest) =
      (readElements fuel (skip rest)).map fun (elements, rest) => (first :: elements, rest) := by
  have comma : skip (',' :: rest) = ',' :: rest := by rw [skip_cons rfl]
  simp only [readElements, read, comma, Option.bind_eq_bind, Option.bind_some, pure]
  cases readElements fuel (skip rest) <;> rfl

/-- The elements of an array are read up to its closing bracket. -/
theorem readElements_append {others : List Json}
    (written : ∀ element ∈ first :: others, IsWritten element)
    (read : ∀ element ∈ first :: others, IsRead layout depth element)
    (long : (chars layout depth first).length +
      (elementChars layout depth others).length < fuel) :
    readElements fuel (chars layout depth first ++ (elementChars layout depth others ++
      (layout.lineStart outer ++ ']' :: rest))) = some (first :: others, rest) := by
  obtain ⟨steps, rfl⟩ : ∃ steps, fuel = steps + 1 := ⟨fuel - 1, by omega⟩
  induction others generalizing first steps with
  | nil =>
      rw [elementChars, List.nil_append]
      exact readElements_last (read first List.mem_cons_self steps _ (by omega)
        (endsNumber_lineStart layout outer (.inl rfl) rest))
  | cons next others ih =>
      rw [elementChars, List.length_cons, List.length_append, List.length_append] at long
      obtain ⟨fewer, rfl⟩ : ∃ fewer, steps = fewer + 1 := ⟨steps - 1, by omega⟩
      have further := ih (fun element member => written element (List.mem_cons_of_mem _ member))
        (fun element member => read element (List.mem_cons_of_mem _ member)) fewer (by omega)
      have element := read first List.mem_cons_self (fewer + 1) _ (by omega)
        (endsNumber_comma (layout.lineStart depth ++ chars layout depth next ++
          elementChars layout depth others ++ (layout.lineStart outer ++ ']' :: rest)))
      rw [elementChars, List.cons_append, readElements_cons element, List.append_assoc,
        List.append_assoc, skip_lineStart, skip_chars layout depth
          (written next (List.mem_cons_of_mem _ List.mem_cons_self)), further]
      rfl

/-- What is opened and not closed at once has elements. -/
theorem readValue_elements {c : Char} {more : List Char} (opened : skip text = c :: more)
    (notClosed : c ≠ ']') :
    readValue (fuel + 1) ('[' :: text) =
      (readElements fuel (skip text)).map fun (elements, rest) => (.array elements, rest) := by
  rw [readValue, opened]
  split
  · rename_i same
    cases same
    exact absurd rfl notClosed
  · rfl

theorem isRead_array {elements : List Json}
    (written : ∀ element ∈ elements, IsWritten element)
    (read : ∀ element ∈ elements, IsRead layout (depth + 1) element) :
    IsRead layout depth (.array elements) := by
  intro fuel rest long ends
  obtain ⟨steps, rfl⟩ : ∃ steps, fuel = steps + 1 := by
    cases fuel with
    | zero => cases elements <;> cases long
    | succ steps => exact ⟨steps, rfl⟩
  cases elements with
  | nil => rfl
  | cons first others =>
      have opening : chars layout depth (.array (first :: others)) ++ rest =
          '[' :: (layout.lineStart (depth + 1) ++ (chars layout (depth + 1) first ++
            (elementChars layout (depth + 1) others ++
              (layout.lineStart depth ++ ']' :: rest)))) := by
        simp [chars]
      obtain ⟨c, more, begins, -, notClosed⟩ :=
        exists_chars layout (depth + 1) (written first List.mem_cons_self)
      have opened (rest : List Char) :
          skip (layout.lineStart (depth + 1) ++ (chars layout (depth + 1) first ++ rest)) =
            c :: (more ++ rest) := by
        rw [skip_lineStart, skip_chars layout _ (written first List.mem_cons_self), begins,
          List.cons_append]
      rw [chars] at long
      simp only [List.length_cons, List.length_append] at long
      rw [opening, readValue_elements (opened _) notClosed, opened, ← List.cons_append, ← begins,
        readElements_append written read (by omega)]
      rfl

end Arrays

/-! ## Objects -/

section Objects

/-- Behind a name comes a colon, and maybe a blank in front of the value. -/
theorem skip_colon (layout : Layout) (rest : List Char) :
    ∃ blanks, skip (layout.colon ++ rest) = ':' :: (blanks ++ rest) ∧
      skip (blanks ++ rest) = skip rest := by
  cases layout with
  | compact => exact ⟨[], skip_cons (by decide) rest, rfl⟩
  | indented => exact ⟨[' '], skip_cons (by decide) (' ' :: rest), rfl⟩

variable {layout : Layout} {depth outer fuel : Nat} {text rest more : List Char} {name : String}
  {value : Json}

/-- Behind the last member the object is closed. -/
theorem readMembers_last
    (start : skip (text ++ (layout.lineStart outer ++ '\x7d' :: rest)) =
      text ++ (layout.lineStart outer ++ '\x7d' :: rest))
    (read : readValue fuel (text ++ (layout.lineStart outer ++ '\x7d' :: rest)) =
      some (value, layout.lineStart outer ++ '\x7d' :: rest)) :
    readMembers (fuel + 1) (stringText name ++ (layout.colon ++
      (text ++ (layout.lineStart outer ++ '\x7d' :: rest)))) =
      some ([(some name, value)], rest) := by
  have closing : skip (layout.lineStart outer ++ '\x7d' :: rest) = '\x7d' :: rest := by
    rw [skip_lineStart, skip_cons rfl]
  obtain ⟨blanks, colon, skipped⟩ :=
    skip_colon layout (text ++ (layout.lineStart outer ++ '\x7d' :: rest))
  have named := readString_stringText name
    (layout.colon ++ (text ++ (layout.lineStart outer ++ '\x7d' :: rest)))
  rw [stringText, List.cons_append, List.append_assoc, List.singleton_append]
  simp only [readMembers, named, colon, skipped, start, read, closing, Option.bind_eq_bind,
    Option.bind_some, pure]

/-- Behind a comma the further members are read. -/
theorem readMembers_cons (start : skip (text ++ ',' :: rest) = text ++ ',' :: rest)
    (read : readValue fuel (text ++ ',' :: rest) = some (value, ',' :: rest)) :
    readMembers (fuel + 1) (stringText name ++ (layout.colon ++ (text ++ ',' :: rest))) =
      (readMembers fuel (skip rest)).map fun (members, rest) =>
        ((some name, value) :: members, rest) := by
  have comma : skip (',' :: rest) = ',' :: rest := by rw [skip_cons rfl]
  obtain ⟨blanks, colon, skipped⟩ := skip_colon layout (text ++ ',' :: rest)
  have named := readString_stringText name (layout.colon ++ (text ++ ',' :: rest))
  rw [stringText, List.cons_append, List.append_assoc, List.singleton_append]
  simp only [readMembers, named, colon, skipped, start, read, comma, Option.bind_eq_bind,
    Option.bind_some, pure]
  cases readMembers fuel (skip rest) <;> rfl

/-- The members of an object are read up to its closing brace. -/
theorem readMembers_append {others : List (Option String × Json)}
    (named : ∀ member ∈ others, member.1.isSome = true)
    (written : ∀ member ∈ (some name, value) :: others, IsWritten member.2)
    (read : ∀ member ∈ (some name, value) :: others, IsRead layout depth member.2)
    (long : (chars layout depth value).length + (memberChars layout depth others).length < fuel) :
    readMembers fuel (stringText name ++ (layout.colon ++ (chars layout depth value ++
      (memberChars layout depth others ++ (layout.lineStart outer ++ '\x7d' :: rest))))) =
        some ((some name, value) :: others, rest) := by
  obtain ⟨steps, rfl⟩ : ∃ steps, fuel = steps + 1 := ⟨fuel - 1, by omega⟩
  induction others generalizing name value steps with
  | nil =>
      have first : IsRead layout depth value := read _ List.mem_cons_self
      rw [memberChars, List.nil_append]
      exact readMembers_last (skip_chars layout depth (written (some name, value) List.mem_cons_self) _)
        (first steps _ (by omega) (endsNumber_lineStart layout outer (.inr rfl) rest))
  | cons next others ih =>
      obtain ⟨nextName, nextValue⟩ := next
      obtain ⟨nextName, rfl⟩ := Option.isSome_iff_exists.mp (named _ List.mem_cons_self)
      have first : IsRead layout depth value := read _ List.mem_cons_self
      rw [memberChars] at long
      simp only [List.length_cons, List.length_append] at long
      obtain ⟨fewer, rfl⟩ : ∃ fewer, steps = fewer + 1 := ⟨steps - 1, by omega⟩
      have further := ih (fun member more => named member (List.mem_cons_of_mem _ more))
        (fun member more => written member (List.mem_cons_of_mem _ more))
        (fun member more => read member (List.mem_cons_of_mem _ more)) fewer (by omega)
      have quoted (rest : List Char) :
          skip (stringText nextName ++ rest) = stringText nextName ++ rest := skip_cons rfl _
      rw [memberChars, Option.getD_some, List.cons_append,
        readMembers_cons (skip_chars layout depth (written (some name, value) List.mem_cons_self) _)
          (first (fewer + 1) _ (by omega) (endsNumber_comma _))]
      simp only [List.append_assoc, skip_lineStart, quoted, further]
      rfl

/-- What is opened by a brace and not closed at once has members. -/
theorem readValue_members {c : Char} {more : List Char} (opened : skip text = c :: more)
    (notClosed : c ≠ '\x7d') :
    readValue (fuel + 1) ('\x7b' :: text) =
      (readMembers fuel (skip text)).map fun (members, rest) => (.object members, rest) := by
  rw [readValue, opened]
  split
  · rename_i same
    cases same
    exact absurd rfl notClosed
  · rfl

theorem isRead_object {members : List (Option String × Json)}
    (named : ∀ member ∈ members, member.1.isSome = true)
    (written : ∀ member ∈ members, IsWritten member.2)
    (read : ∀ member ∈ members, IsRead layout (depth + 1) member.2) :
    IsRead layout depth (.object members) := by
  intro fuel rest long ends
  obtain ⟨steps, rfl⟩ : ∃ steps, fuel = steps + 1 := by
    cases fuel with
    | zero => cases members <;> cases long
    | succ steps => exact ⟨steps, rfl⟩
  cases members with
  | nil => rfl
  | cons first others =>
      obtain ⟨name, value⟩ := first
      obtain ⟨name, rfl⟩ := Option.isSome_iff_exists.mp (named _ List.mem_cons_self)
      have opening : chars layout depth (.object ((some name, value) :: others)) ++ rest =
          '\x7b' :: (layout.lineStart (depth + 1) ++ (stringText name ++ (layout.colon ++
            (chars layout (depth + 1) value ++ (memberChars layout (depth + 1) others ++
              (layout.lineStart depth ++ '\x7d' :: rest)))))) := by
        simp [chars]
      have opened (rest : List Char) : skip (layout.lineStart (depth + 1) ++
          (stringText name ++ rest)) = '"' :: (name.toList.flatMap escapeChar ++ ['"'] ++ rest) := by
        rw [skip_lineStart]
        exact skip_cons rfl _
      rw [chars] at long
      simp only [List.length_cons, List.length_append] at long
      rw [opening, readValue_members (opened _) (by decide), opened, ← List.cons_append, ← stringText,
        readMembers_append (fun member more => named member (List.mem_cons_of_mem _ more)) written
          read (by omega)]
      rfl

end Objects

/-! ## Texts -/

/-- A value that is written is read. -/
theorem isRead_of_isWritten {value : Json} (written : IsWritten value) (layout : Layout)
    (depth : Nat) : IsRead layout depth value := by
  induction written generalizing depth with
  | null => exact isRead_null layout depth
  | bool truth => exact isRead_bool layout depth truth
  | number wellFormed => exact isRead_number layout depth wellFormed
  | string text => exact isRead_string layout depth text
  | array each ih => exact isRead_array each fun element member => ih element member (depth + 1)
  | object named each ih =>
      exact isRead_object named each fun member more => ih member more (depth + 1)

/-- A value is read back from its text in either layout. -/
theorem ofText?_text {value : Json} (written : IsWritten value) (layout : Layout) :
    ofText? (value.text layout) = some value := by
  have start := skip_chars layout 0 written []
  have read := isRead_of_isWritten written layout 0 ((chars layout 0 value).length + 1) []
    (Nat.le_succ _) endsNumber_nil
  rw [List.append_nil] at start read
  rw [ofText?, text]
  simp only [String.toList_ofList, start, read]
  rfl

end TableStore.Json
