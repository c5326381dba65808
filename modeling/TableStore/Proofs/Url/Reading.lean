import Mathlib.Data.List.DropRight
import TableStore.Url.Reading

/-!
# Parts of the text of a URL

A text is cut at the first character of some kind, so whatever precedes that character may be set
apart. A URL is read from its blank ends inwards: its scheme stands before the first colon, its
query after the first question mark, its fragment after the first number sign. What is said here
about texts that are put together lets the parts of a URL be read one by one.
-/

namespace TableStore.Url

/-! ## Cutting -/

section Cutting

variable {test : Char → Bool} {first : List Char}

theorem cut_cons (c : Char) (rest : List Char) :
    cut test (c :: rest) =
      if test c then ([], c :: rest) else (c :: (cut test rest).1, (cut test rest).2) := by
  cases marks : test c <;> simp [cut, marks]

/-- A text without a character to cut at is passed over. -/
theorem cut_append_of_forall (free : ∀ c ∈ first, test c = false) (second : List Char) :
    cut test (first ++ second) = (first ++ (cut test second).1, (cut test second).2) := by
  induction first with
  | nil => rfl
  | cons c rest ih =>
      obtain ⟨other, others⟩ := List.forall_mem_cons.mp free
      rw [List.cons_append, cut_cons, other, ih others]
      rfl

/-- Either a text is passed over, or it is cut in the same way whatever follows it. -/
theorem cut_append_cases (test : Char → Bool) (first : List Char) :
    (∀ second, cut test (first ++ second) =
        (first ++ (cut test second).1, (cut test second).2)) ∨
      ∃ own d rest, ∀ second, cut test (first ++ second) = (own, d :: (rest ++ second)) := by
  induction first with
  | nil =>
      left
      intro second
      rfl
  | cons c first ih =>
      simp only [List.cons_append, cut_cons]
      cases test c with
      | true =>
          right
          exact ⟨[], c, first, fun second => rfl⟩
      | false =>
          rcases ih with free | ⟨own, d, rest, found⟩
          · left
            intro second
            rw [free]
            rfl
          · right
            refine ⟨c :: own, d, rest, fun second => ?_⟩
            rw [found]
            rfl

end Cutting

/-! ## Blanks and breaks -/

/-- Whether a character is dropped at the ends of a text. -/
def isBlank (c : Char) : Bool :=
  c ≤ ' '

/-- A text without the blanks at its end. -/
def withoutBlankEnd (text : List Char) : List Char :=
  text.rdropWhile isBlank

theorem trimmed_eq (text : List Char) :
    trimmed text = withoutBlankEnd (text.dropWhile isBlank) :=
  rfl

theorem withoutBlankEnd_append_cons {c : Char} (shown : isBlank c = false)
    (first second : List Char) :
    withoutBlankEnd (first ++ c :: second) = first ++ c :: withoutBlankEnd second := by
  have stops : (c :: first.reverse).dropWhile isBlank = c :: first.reverse := by simp [shown]
  rw [withoutBlankEnd, withoutBlankEnd, List.rdropWhile, List.rdropWhile, List.reverse_append,
    List.reverse_cons, List.append_assoc, List.singleton_append, List.dropWhile_append, stops]
  split
  · rename_i blank
    rw [List.isEmpty_iff.mp blank]
    simp
  · simp

theorem withoutBlankEnd_cons {c : Char} (shown : isBlank c = false) (rest : List Char) :
    withoutBlankEnd (c :: rest) = c :: withoutBlankEnd rest :=
  withoutBlankEnd_append_cons shown [] rest

theorem mem_of_mem_withoutBlankEnd {c : Char} {text : List Char}
    (member : c ∈ withoutBlankEnd text) : c ∈ text :=
  (List.rdropWhile_prefix isBlank text).subset member

/-- Around a character that is none, blanks are dropped on each side. -/
theorem trimmed_append_cons {c : Char} (shown : isBlank c = false) (first second : List Char) :
    trimmed (first ++ c :: second) = first.dropWhile isBlank ++ c :: withoutBlankEnd second := by
  have stops : (c :: second).dropWhile isBlank = c :: second := by simp [shown]
  rw [trimmed_eq, List.dropWhile_append, stops]
  split
  · rename_i blank
    rw [List.isEmpty_iff.mp blank]
    exact withoutBlankEnd_append_cons shown [] second
  · exact withoutBlankEnd_append_cons shown _ second

@[simp]
theorem unbroken_append (first second : List Char) :
    unbroken (first ++ second) = unbroken first ++ unbroken second :=
  List.filter_append ..

theorem unbroken_cons {c : Char} (kept : isBreak c = false) (rest : List Char) :
    unbroken (c :: rest) = c :: unbroken rest := by
  simp [unbroken, kept]

theorem unbroken_of_forall {text : List Char} (kept : ∀ c ∈ text, isBreak c = false) :
    unbroken text = text := by
  simpa [unbroken] using kept

theorem isBreak_of_shown {c : Char} (shown : isBlank c = false) : isBreak c = false := by
  have above : ' ' < c := by simpa [isBlank] using shown
  simp only [isBreak, Bool.or_eq_false_iff, beq_eq_false_iff_ne]
  refine ⟨⟨?_, ?_⟩, ?_⟩ <;>
    · rintro rfl
      exact absurd above (by decide)

theorem mem_unbroken {c : Char} {text : List Char} :
    c ∈ unbroken text ↔ c ∈ text ∧ isBreak c = false := by
  simp [unbroken]

@[simp]
theorem encode_append (inSet : Char → Bool) (first second : List Char) :
    encode inSet (first ++ second) = encode inSet first ++ encode inSet second :=
  List.flatMap_append ..

/-! ## The beginning -/

/-- The absolute URL of a scheme and the text after its colon. -/
def ofRest (scheme rest : List Char) : Except Fault Url := do
  let kind := Kind.ofScheme scheme
  let (place, query?, fragment?) := cutTail kind rest
  let (authority?, path) ← readPlace kind place (query?.isNone && fragment?.isNone)
  return ⟨scheme, authority?, path, query?, fragment?⟩

theorem scheme_of_ofRest {scheme rest : List Char} {url : Url} (read : ofRest scheme rest = .ok url) :
    url.scheme = scheme := by
  simp only [ofRest] at read
  generalize readPlace _ _ _ = place at read
  cases place with
  | error fault => cases read
  | ok parts =>
      cases read
      rfl

/-- The scheme that a text begins with, and what stands after its colon. -/
def readStart? (text : List Char) : Option (List Char × List Char) :=
  (readScheme? (unbroken text)).map fun scheme => (scheme, (text.dropWhile (· != ':')).drop 1)

theorem ofText_eq (text : String) :
    ofText text =
      match readStart? (trimmed text.toList) with
      | none => .error .relativeWithoutBase
      | some (scheme, rest) => ofRest scheme rest := by
  simp only [ofText, readStart?]
  cases scheme : readScheme? (unbroken (trimmed text.toList)) <;> rfl

/-- What follows a character that is no part of a scheme and no colon does not matter. -/
theorem readScheme?_append_cons {c : Char} (outside : isSchemeCharacter c = false)
    (noColon : c ≠ ':') (first rest : List Char) :
    readScheme? (first ++ c :: rest) = readScheme? first := by
  rw [readScheme?, readScheme?]
  rcases cut_append_cases (!isSchemeCharacter ·) first with free | ⟨scheme, d, after, found⟩
  · have alone := free []
    rw [List.append_nil] at alone
    rw [free, alone, cut_cons, outside]
    cases first with
    | nil => rfl
    | cons d first => simp [noColon, cut]
  · have alone := found []
    rw [List.append_nil] at alone
    rw [found, alone]
    cases scheme with
    | nil => rfl
    | cons e scheme => by_cases colon : d = ':' <;> simp [colon]

theorem colon_mem_of_readScheme? {text scheme : List Char} (read : readScheme? text = some scheme) :
    ':' ∈ text := by
  rw [readScheme?] at read
  split at read
  · rename_i parted
    have after := (Prod.mk.inj parted).2
    apply List.dropWhile_subset
    rw [after]
    exact List.mem_cons_self
  · cases read

/-- A character that is no part of a scheme and no colon stands after the scheme. -/
theorem readStart?_append_cons {c : Char} (shown : isBlank c = false)
    (outside : isSchemeCharacter c = false) (noColon : c ≠ ':') (first rest : List Char) :
    readStart? (first ++ c :: rest) =
      (readStart? first).map fun (scheme, after) => (scheme, after ++ c :: rest) := by
  rw [readStart?, readStart?, unbroken_append, unbroken_cons (isBreak_of_shown shown),
    readScheme?_append_cons outside noColon]
  cases read : readScheme? (unbroken first) with
  | none => rfl
  | some scheme =>
      have colon : ':' ∈ first := (mem_unbroken.mp (colon_mem_of_readScheme? read)).1
      have found : first.dropWhile (· != ':') ≠ [] := by simpa using colon
      rw [List.dropWhile_append, if_neg (by simpa using found)]
      simp [List.drop_append_of_le_length (List.length_pos_iff.mpr found)]

theorem mem_of_readStart? {text scheme after : List Char}
    (read : readStart? text = some (scheme, after)) {c : Char} (member : c ∈ after) : c ∈ text := by
  rw [readStart?, Option.map_eq_some_iff] at read
  obtain ⟨_, _, same⟩ := read
  rw [← (Prod.mk.inj same).2] at member
  exact List.dropWhile_subset _ (List.mem_of_mem_drop member)

/-- A URL is read in two parts, before and after a character that stands after the scheme. -/
theorem ofText_append_cons {c : Char} (shown : isBlank c = false)
    (outside : isSchemeCharacter c = false) (noColon : c ≠ ':') (first second : List Char) :
    ofText (String.ofList (first ++ c :: second)) =
      match readStart? (first.dropWhile isBlank) with
      | none => .error .relativeWithoutBase
      | some (scheme, after) => ofRest scheme (after ++ c :: withoutBlankEnd second) := by
  rw [ofText_eq, String.toList_ofList, trimmed_append_cons shown,
    readStart?_append_cons shown outside noColon]
  cases readStart? (first.dropWhile isBlank) <;> rfl

/-! ## The end -/

/-- A text without the marks of a query or a fragment stands before both. -/
theorem cutTail_append (kind : Kind) {first : List Char}
    (free : ∀ c ∈ first, c ≠ '?' ∧ c ≠ '#') (second : List Char) :
    cutTail kind (first ++ second) =
      (first ++ (cutTail kind second).1, (cutTail kind second).2) := by
  have noNumber : ∀ c ∈ first, (c == '#') = false := fun c member => by simp [(free c member).2]
  have noQuestion : ∀ c ∈ first, (c == '?') = false := fun c member => by simp [(free c member).1]
  simp only [cutTail, cut_append_of_forall noNumber, cut_append_of_forall noQuestion]

end TableStore.Url
