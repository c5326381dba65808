import TableStore.Proofs.Hex
import TableStore.Proofs.Url.Redaction

/-!
# Passwords in queries

A driver also takes a password from the query of a URL. Configurations leave that parameter
alone, and so does redaction, which hides the password of the authority only: the value of the
parameter stands in the text of the redacted URL as it is written in the query.
-/

namespace TableStore.Url

/-! ## Forms -/

theorem formPairs_nil : formPairs [] = [] :=
  rfl

theorem formPairs_append_cons (first second : List Char) :
    formPairs (first ++ '&' :: second) = formPairs first ++ formPairs second := by
  simp [formPairs, splitAt, List.splitOnP_append_cons]

theorem formPairs_singleton {name value : List Char} (plain : ∀ c ∈ name, c ≠ '&' ∧ c ≠ '=')
    (single : ∀ c ∈ value, c ≠ '&') :
    formPairs (name ++ '=' :: value) = [(decodeForm name, decodeForm value)] := by
  have whole : splitAt '&' (name ++ '=' :: value) = [name ++ '=' :: value] := by
    apply List.splitOnP_eq_singleton
    intro c member
    rcases List.mem_append.mp member with inName | member
    · simp [(plain c inName).1]
    rcases List.mem_cons.mp member with rfl | inValue
    · rfl
    · simp [single c inValue]
  have own : ∀ c ∈ name, (c != '=') = true := fun c member => by simp [(plain c member).2]
  have name_eq : (name ++ '=' :: value).takeWhile (· != '=') = name := by
    simp [List.takeWhile_append_of_pos own]
  have value_eq : (name ++ '=' :: value).dropWhile (· != '=') = '=' :: value := by
    simp [List.dropWhile_append_of_pos own]
  simp [formPairs, whole, name_eq, value_eq]

/-- A form that is empty or ends with a separator is read on its own. -/
theorem formPairs_append_of_closed {first : List Char}
    (closed : first = [] ∨ ∃ rest, first = rest ++ ['&']) (second : List Char) :
    formPairs (first ++ second) = formPairs first ++ formPairs second := by
  rcases closed with rfl | ⟨rest, rfl⟩
  · rfl
  · rw [← List.append_cons, formPairs_append_cons, formPairs_append_cons]
    simp [formPairs_nil]

/-- A form that is empty or begins with a separator is read on its own. -/
theorem formPairs_append_of_open {second : List Char}
    (starts : second = [] ∨ ∃ rest, second = '&' :: rest) (first : List Char) :
    formPairs (first ++ second) = formPairs first ++ formPairs second := by
  rcases starts with rfl | ⟨rest, rfl⟩
  · simp [formPairs_nil]
  · have alone := formPairs_append_cons [] rest
    rw [List.nil_append] at alone
    rw [formPairs_append_cons, alone, formPairs_nil, List.nil_append]

/-! ## Encoding -/

theorem mem_encode {inSet : Char → Bool} {text : List Char} {c : Char}
    (member : c ∈ encode inSet text) :
    c ∈ text ∨ c = '%' ∨ ∃ n < 16, c = (Nat.digitChar n).toUpper := by
  rw [encode, List.mem_flatMap] at member
  obtain ⟨d, source, member⟩ := member
  split at member
  · right
    obtain ⟨byte, _, member⟩ := List.mem_flatMap.mp member
    rw [encodeByte, List.mem_cons, List.mem_map] at member
    rcases member with rfl | ⟨e, digit, rfl⟩
    · left
      rfl
    · obtain ⟨n, bound, rfl⟩ := Hex.mem_ofByte digit
      right
      exact ⟨n, bound, rfl⟩
  · left
    rwa [List.mem_singleton.mp member]

/-- A text as it is written in a query. -/
def inQuery (text : List Char) : List Char :=
  encode (inQuerySet false) (unbroken text)

@[simp]
theorem inQuery_nil : inQuery [] = [] :=
  rfl

@[simp]
theorem inQuery_append (first second : List Char) :
    inQuery (first ++ second) = inQuery first ++ inQuery second := by
  simp [inQuery]

/-- A separator is written as it is. -/
theorem inQuery_cons {c : Char} (separates : c = '&' ∨ c = '=') (rest : List Char) :
    inQuery (c :: rest) = c :: inQuery rest := by
  rcases separates with rfl | rfl <;> rfl

/-- No separator is written for anything else. -/
theorem mem_of_mem_inQuery {text : List Char} {c : Char} (separates : c = '&' ∨ c = '=')
    (member : c ∈ inQuery text) : c ∈ text := by
  have digits : ∀ n < 16, (Nat.digitChar n).toUpper ≠ '&' ∧ (Nat.digitChar n).toUpper ≠ '=' := by
    decide
  rcases mem_encode member with same | rfl | ⟨n, bound, rfl⟩
  · exact (mem_unbroken.mp same).1
  · exact absurd separates (by decide)
  · exact absurd separates (not_or.mpr (digits n bound))

/-! ## The place of a parameter -/

/-- The text of a URL around the value of a parameter that is named as the password: what stands
before the query, the parameters before it, its name as it is written, and what comes after. -/
structure PasswordParameter where
  head : List Char
  earlier : List Char
  name : List Char
  later : List Char
  head_plain : ∀ c ∈ head, c ≠ '?' ∧ c ≠ '#'
  earlier_plain : ∀ c ∈ earlier, c ≠ '#'
  earlier_closed : earlier = [] ∨ ∃ parameters, earlier = parameters ++ ['&']
  name_plain : ∀ c ∈ name, c ≠ '#' ∧ c ≠ '&' ∧ c ≠ '='
  name_read : decodeForm (inQuery name) = "password".toList
  later_open : later = [] ∨ ∃ c rest, later = c :: rest ∧ (c = '&' ∨ c = '#')

/-- Whether a text can stand as the value of a parameter in the text of a URL. -/
def IsValue (value : String) : Prop :=
  ∀ c ∈ value.toList, c ≠ '#' ∧ c ≠ '&'

instance (value : String) : Decidable (IsValue value) :=
  List.decidableBAll (fun c => c ≠ '#' ∧ c ≠ '&') value.toList

namespace PasswordParameter

variable (parameter : PasswordParameter)

/-- The text of a URL in which the parameter has a value. -/
def text (value : String) : String :=
  String.ofList (parameter.head ++ '?' :: (parameter.earlier ++ parameter.name ++
    '=' :: (value.toList ++ parameter.later)))

/-- What is read of a value: blanks at its end are lost if it ends the text. -/
def kept (value : String) : List Char :=
  if parameter.later = [] then withoutBlankEnd value.toList else value.toList

/-- A value as it is written in the query. -/
def written (value : String) : List Char :=
  inQuery (parameter.kept value)

/-- What is left of the text after the value. -/
def ending : List Char × List Char :=
  cut (· == '#') (withoutBlankEnd parameter.later)

/-- The query in which the parameter has a value. -/
def query (value : String) : List Char :=
  inQuery parameter.earlier ++ inQuery parameter.name ++ '=' :: parameter.written value ++
    inQuery parameter.ending.1

theorem ending_open : parameter.ending.1 = [] ∨ ∃ rest, parameter.ending.1 = '&' :: rest := by
  rw [ending]
  rcases parameter.later_open with none | ⟨c, rest, starts, rfl | rfl⟩
  · left
    rw [none]
    rfl
  · right
    rw [starts, withoutBlankEnd_cons rfl, cut_cons]
    exact ⟨_, rfl⟩
  · left
    rw [starts, withoutBlankEnd_cons rfl, cut_cons]
    rfl

theorem mem_of_mem_kept {value : String} {c : Char} (member : c ∈ parameter.kept value) :
    c ∈ value.toList := by
  rw [kept] at member
  split at member
  · exact mem_of_mem_withoutBlankEnd member
  · exact member

theorem withoutBlankEnd_value (value : String) :
    withoutBlankEnd (value.toList ++ parameter.later) =
      parameter.kept value ++ withoutBlankEnd parameter.later := by
  rw [kept]
  rcases parameter.later_open with none | ⟨c, rest, starts, marks⟩
  · simp [none, withoutBlankEnd]
  · have shown : isBlank c = false := by rcases marks with rfl | rfl <;> rfl
    simp [starts, withoutBlankEnd_append_cons shown, withoutBlankEnd_cons shown]

/-- The query reaches from the question mark to the fragment, if there is one. -/
theorem exists_cutTail :
    ∃ fragment?, ∀ value, IsValue value →
      cutTail .other ('?' :: withoutBlankEnd (parameter.earlier ++ parameter.name ++
          '=' :: (value.toList ++ parameter.later))) =
        ([], some (parameter.query value), fragment?) := by
  refine ⟨(cutTail .other (withoutBlankEnd parameter.later)).2.2, fun value valid => ?_⟩
  -- nothing up to the end of the value begins a fragment
  have free : ∀ c ∈ '?' :: (parameter.earlier ++ parameter.name ++ '=' :: parameter.kept value),
      (c == '#') = false := by
    simp only [List.mem_append, List.mem_cons]
    rintro c (rfl | (member | member) | rfl | member)
    · rfl
    · simpa using parameter.earlier_plain c member
    · simpa using (parameter.name_plain c member).1
    · rfl
    · simpa using (valid c (parameter.mem_of_mem_kept member)).1
  have parts : cut (· == '#') ('?' :: (parameter.earlier ++ parameter.name ++
      '=' :: (parameter.kept value ++ withoutBlankEnd parameter.later))) =
      ('?' :: (parameter.earlier ++ parameter.name ++ '=' :: (parameter.kept value ++
        parameter.ending.1)), parameter.ending.2) := by
    simpa [ending] using cut_append_of_forall free (withoutBlankEnd parameter.later)
  have whole : encode (inQuerySet Kind.other.isSpecial) (unbroken (parameter.earlier ++
      parameter.name ++ '=' :: (parameter.kept value ++ parameter.ending.1))) =
      parameter.query value := by
    change inQuery _ = _
    simp [query, written, inQuery_cons]
  rw [withoutBlankEnd_append_cons rfl, withoutBlankEnd_value]
  have rest : cut (· == '#') (withoutBlankEnd parameter.later) = parameter.ending := rfl
  have question (text : List Char) : cut (· == '?') ('?' :: text) = ([], '?' :: text) := rfl
  simp only [cutTail, parts, rest, question, Option.map_some, whole]

/-- Under a scheme that is not special, the URL is the same for every value but for its query. -/
theorem exists_ofText {scheme after : List Char}
    (start : readStart? (parameter.head.dropWhile isBlank) = some (scheme, after))
    (kind : Kind.ofScheme scheme = .other) :
    ∃ (outcome : Except Fault (Option Authority × Path)) (fragment? : Option (List Char)),
      ∀ value, IsValue value → ofText (parameter.text value) =
        outcome.map fun (authority?, path) =>
          ⟨scheme, authority?, path, some (parameter.query value), fragment?⟩ := by
  obtain ⟨fragment?, tail⟩ := parameter.exists_cutTail
  refine ⟨readPlace .other after false, fragment?, ?_⟩
  intro value valid
  have free : ∀ c ∈ after, c ≠ '?' ∧ c ≠ '#' := fun c member =>
    parameter.head_plain c (List.dropWhile_subset _ (mem_of_readStart? start member))
  rw [text, ofText_append_cons rfl rfl (by decide), start]
  simp only [ofRest, kind, cutTail_append _ free, tail value valid, List.append_nil,
    Option.isNone_some, Bool.false_and]
  cases readPlace .other after false <;> rfl

/-- The parameter is read between the parameters before it and those after it. -/
theorem exists_formPairs :
    ∃ before after, ∀ value, IsValue value → formPairs (parameter.query value) =
      before ++ ("password".toList, decodeForm (parameter.written value)) :: after := by
  refine ⟨formPairs (inQuery parameter.earlier), formPairs (inQuery parameter.ending.1), ?_⟩
  intro value valid
  have closed : inQuery parameter.earlier = [] ∨
      ∃ rest, inQuery parameter.earlier = rest ++ ['&'] := by
    rcases parameter.earlier_closed with none | ⟨parameters, same⟩
    · simp [none]
    · right
      exact ⟨inQuery parameters, by simp [same, inQuery_cons]⟩
  have starts : inQuery parameter.ending.1 = [] ∨
      ∃ rest, inQuery parameter.ending.1 = '&' :: rest := by
    rcases parameter.ending_open with none | ⟨rest, same⟩
    · simp [none]
    · right
      exact ⟨inQuery rest, by simp [same, inQuery_cons]⟩
  have plain : ∀ c ∈ inQuery parameter.name, c ≠ '&' ∧ c ≠ '=' := by
    intro c member
    constructor
    · rintro rfl
      exact (parameter.name_plain _ (mem_of_mem_inQuery (.inl rfl) member)).2.1 rfl
    · rintro rfl
      exact (parameter.name_plain _ (mem_of_mem_inQuery (.inr rfl) member)).2.2 rfl
  have single : ∀ c ∈ parameter.written value, c ≠ '&' := by
    rintro c member rfl
    exact (valid _ (parameter.mem_of_mem_kept (mem_of_mem_inQuery (.inl rfl) member))).2 rfl
  rw [query, formPairs_append_of_open starts, List.append_assoc,
    formPairs_append_of_closed closed, formPairs_singleton plain single, parameter.name_read]
  simp

end PasswordParameter

/-! ## Configurations and messages -/

/-- A configuration is the same for queries with the same effect. -/
theorem ofParsed_query_congr {url : Url} {one other : List Char}
    (same : ∀ configuration : Configuration,
      ({ url with query? := some one } : Url).queryPairs.foldlM Configuration.withParameter
          configuration =
        ({ url with query? := some other } : Url).queryPairs.foldlM Configuration.withParameter
          configuration) (environment : Environment) :
    Configuration.ofParsed { url with query? := some one } environment =
      Configuration.ofParsed { url with query? := some other } environment := by
  unfold Configuration.ofParsed
  simp only [same]
  rfl

/-- A configuration is read only under the schemes of the database. -/
theorem scheme_of_ofParsed {url : Url} {environment : Environment} {configuration : Configuration}
    (accepted : Configuration.ofParsed url environment = .ok configuration) :
    url.scheme = "postgres".toList ∨ url.scheme = "postgresql".toList := by
  by_contra neither
  rw [not_or] at neither
  rw [Configuration.ofParsed, if_pos neither] at accepted
  cases accepted

/-- A configuration is read from a URL. -/
theorem exists_of_ofUrl {text : String} {environment : Environment} {configuration : Configuration}
    (accepted : Configuration.ofUrl text environment = .ok configuration) :
    ∃ url, ofText text = .ok url ∧ Configuration.ofParsed url environment = .ok configuration := by
  rw [Configuration.ofUrl] at accepted
  cases read : ofText text with
  | error fault =>
      rw [read] at accepted
      cases accepted
  | ok url =>
      rw [read] at accepted
      change (Configuration.ofParsed url environment).mapError Error.configuration = _ at accepted
      cases parsed : Configuration.ofParsed url environment with
      | error fault =>
          rw [parsed] at accepted
          cases accepted
      | ok given =>
          rw [parsed] at accepted
          cases accepted
          exact ⟨url, rfl, parsed⟩

namespace PasswordParameter

variable (parameter : PasswordParameter) {environment : Environment}
  {configuration : Configuration} {first : String}

/-- If one value is accepted, then every value is read to the same URL but for its query. -/
theorem exists_url (one : IsValue first)
    (accepted : Configuration.ofUrl (parameter.text first) environment = .ok configuration) :
    ∃ url : Url, ∀ value, IsValue value →
      ofText (parameter.text value) = .ok { url with query? := some (parameter.query value) } := by
  obtain ⟨url, read, parsed⟩ := exists_of_ofUrl accepted
  have parts := read
  rw [text, ofText_append_cons rfl rfl (by decide)] at parts
  cases start : readStart? (parameter.head.dropWhile isBlank) with
  | none =>
      rw [start] at parts
      cases parts
  | some begun =>
      obtain ⟨scheme, after⟩ := begun
      rw [start] at parts
      -- the accepted value tells the scheme, and with it how every value is written
      have kind : Kind.ofScheme scheme = .other := by
        rw [← scheme_of_ofRest parts]
        rcases scheme_of_ofParsed parsed with same | same <;>
          · rw [same]
            decide
      obtain ⟨outcome, fragment?, all⟩ := parameter.exists_ofText start kind
      cases outcome with
      | error fault =>
          rw [all first one] at read
          cases read
      | ok place => exact ⟨⟨scheme, place.1, place.2, none, fragment?⟩, all⟩

/-- The parameter is left alone: the others are all that a configuration is made of. -/
theorem ofUrl_eq_ok (one : IsValue first)
    (accepted : Configuration.ofUrl (parameter.text first) environment = .ok configuration)
    {second : String} (other : IsValue second) :
    Configuration.ofUrl (parameter.text second) environment = .ok configuration := by
  obtain ⟨url, read⟩ := parameter.exists_url one accepted
  obtain ⟨before, after, pairs⟩ := parameter.exists_formPairs
  rw [← accepted, Configuration.ofUrl, Configuration.ofUrl, read first one, read second other]
  have effect : ∀ given : Configuration,
      ({ url with query? := some (parameter.query second) } : Url).queryPairs.foldlM
          Configuration.withParameter given =
        ({ url with query? := some (parameter.query first) } : Url).queryPairs.foldlM
          Configuration.withParameter given := by
    intro given
    simp only [queryPairs, Option.getD_some, pairs first one, pairs second other, List.map_append,
      List.map_cons, List.foldlM_append, List.foldlM_cons]
    rfl
  simp only [Except.mapError, Except.bind, ofParsed_query_congr effect]

/-- Around the value, the text of the redacted URL is the same for every value. -/
theorem exists_redact (one : IsValue first)
    (accepted : Configuration.ofUrl (parameter.text first) environment = .ok configuration) :
    ∃ start finish, ∀ value, IsValue value → redact (parameter.text value) =
      String.ofList (start ++ parameter.written value ++ finish) := by
  obtain ⟨url, read⟩ := parameter.exists_url one accepted
  let shown := url.redacted
  refine ⟨shown.scheme ++ [':'] ++ shown.afterScheme ++ shown.path.text ++
      '?' :: inQuery parameter.earlier ++ inQuery parameter.name ++ ['='],
    inQuery parameter.ending.1 ++ marked '#' shown.fragment?, ?_⟩
  intro value valid
  rw [redact, read value valid]
  simp [Url.text, redacted, shown, afterScheme, marked, query]

end PasswordParameter

/-- Under a URL that gives a configuration, a password in the query is shown as it is written:
what is reported is the same for two passwords exactly when they are written alike. -/
theorem query_passwords_alike_iff (parameter : PasswordParameter) {environment : Environment}
    {configuration : Configuration} {first second : String} (one : IsValue first)
    (other : IsValue second)
    (accepted : Configuration.ofUrl (parameter.text first) environment = .ok configuration) :
    (∃ url, ofText (parameter.text first) = .ok url ∧
        ("password", String.ofList (decodeForm (parameter.written first))) ∈ url.queryPairs) ∧
      Configuration.ofUrl (parameter.text second) environment = .ok configuration ∧
      (∃ start finish, ∀ value, IsValue value → redact (parameter.text value) =
        String.ofList (start ++ parameter.written value ++ finish)) ∧
      (redact (parameter.text first) = redact (parameter.text second) ↔
        parameter.written first = parameter.written second) ∧
      ∀ cause, (Error.connectionFailed environment (parameter.text first) cause).message =
          (Error.connectionFailed environment (parameter.text second) cause).message ↔
        parameter.written first = parameter.written second := by
  obtain ⟨start, finish, shown⟩ := parameter.exists_redact one accepted
  have alike : redact (parameter.text first) = redact (parameter.text second) ↔
      parameter.written first = parameter.written second := by
    rw [shown first one, shown second other, String.ofList_inj]
    simp
  refine ⟨?_, parameter.ofUrl_eq_ok one accepted other, ⟨start, finish, shown⟩, alike, ?_⟩
  · obtain ⟨url, read⟩ := parameter.exists_url one accepted
    obtain ⟨before, after, pairs⟩ := parameter.exists_formPairs
    refine ⟨_, read first one, ?_⟩
    rw [queryPairs, Option.getD_some, pairs first one]
    simp
  · intro cause
    rw [Error.message_connectionFailed, Error.message_connectionFailed, ← alike]
    simp

/-- The parameter among others in the query of a URL of a local database, with a letter of its
name encoded. -/
def localParameter : PasswordParameter where
  head := "postgres://app@localhost/db".toList
  earlier := "sslmode=require&".toList
  name := "p%61ssword".toList
  later := "&connect_timeout=5".toList
  head_plain := by simp
  earlier_plain := by simp
  earlier_closed := .inr ⟨"sslmode=require".toList, rfl⟩
  name_plain := by simp
  name_read := by decide
  later_open := .inr ⟨'&', "connect_timeout=5".toList, rfl, .inl rfl⟩

theorem local_passwords_alike_iff :
    IsValue "hunter2" ∧ IsValue "swordfish" ∧
      (Configuration.ofUrl (localParameter.text "hunter2") .production).toOption.isSome ∧
      redact (localParameter.text "hunter2") =
        "postgres://app@localhost/db?sslmode=require&p%61ssword=hunter2&connect_timeout=5" ∧
      (redact (localParameter.text "hunter2") = redact (localParameter.text "swordfish") ↔
        localParameter.written "hunter2" = localParameter.written "swordfish") := by
  have one : IsValue "hunter2" := by decide
  have other : IsValue "swordfish" := by decide
  have accepted : Configuration.ofUrl (localParameter.text "hunter2") .production =
      .ok { host := "localhost", port? := some 5432, database? := some "db", user? := some "app",
            environment := .production, connectLimit := .ofSeconds 5 } := by
    decide +kernel
  refine ⟨one, other, by rw [accepted]; rfl, by decide +kernel, ?_⟩
  exact (query_passwords_alike_iff localParameter one other accepted).2.2.2.1

/-- Two passwords in the query of the same URL, which gives a configuration, are both shown. -/
theorem query_passwords_are_shown :
    let one := "postgres://app@localhost/db?password=hunter2"
    let other := "postgres://app@localhost/db?password=swordfish"
    Configuration.ofUrl one .production = Configuration.ofUrl other .production ∧
      (Configuration.ofUrl one .production).toOption.isSome ∧
      redact one = one ∧ redact other = other ∧ redact one ≠ redact other ∧
      (Error.connectionFailed .production one .refused).message =
        "Database connection failed for prod context: " ++ one := by
  decide +kernel

end TableStore.Url
