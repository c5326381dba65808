import TableStore.Proofs.Url.Reading

/-!
# Passwords in URLs

The password of a URL stands between the first colon and the last at sign of its authority.
Whatever it is, the rest of the URL is read in the same way, and so is every fault: a password
decides nothing but the password of the URL.
-/

namespace TableStore.Url

/-- An authority with a password. -/
def Authority.withPassword (authority : Authority) (password : List Char) : Authority :=
  { authority with password? := some password }

/-! ## Credentials -/

/-- What stands before an at sign belongs to the credentials, with all that precedes the last at
sign, and the place after that sign is the same whatever it is. -/
theorem exists_cutLastAt? (second : List Char) :
    ∃ trail place, ∀ first, cutLastAt? (first ++ '@' :: second) = some (first ++ trail, place) := by
  rcases cut_append_cases (· == '@') second.reverse with free | ⟨after, d, before, found⟩
  · refine ⟨[], second, fun first => ?_⟩
    rw [cutLastAt?, List.reverse_append, List.reverse_cons, List.append_assoc, free,
      List.singleton_append, cut_cons]
    simp
  · refine ⟨'@' :: before.reverse, after.reverse, fun first => ?_⟩
    rw [cutLastAt?, List.reverse_append, List.reverse_cons, List.append_assoc, found]
    simp

/-- A password that is not empty stands after the first colon of the credentials. -/
theorem exists_readCredentials (user : List Char) :
    ∃ shown lead, ∀ password, password ≠ [] →
      readCredentials (user ++ ':' :: password) =
        (shown, some (encode inUserSet (lead ++ password))) := by
  rcases cut_append_cases (· == ':') user with free | ⟨own, d, lead, found⟩
  · refine ⟨encode inUserSet user, [], fun password nonempty => ?_⟩
    obtain ⟨c, rest, rfl⟩ := List.exists_cons_of_ne_nil nonempty
    rw [readCredentials, free, cut_cons]
    simp
  · refine ⟨encode inUserSet own, lead ++ [':'], fun password _ => ?_⟩
    rw [readCredentials, found]
    cases lead <;> simp

/-! ## Authorities -/

/-- The authority of credentials and the place after them, and the text left after its port. -/
def authorityAt (kind : Kind) (user : List Char) (password? : Option (List Char))
    (place : List Char) : Except Fault (Authority × List Char) := do
  let (hostText, portText) := cutPort false place
  if kind.isSpecial && hostText.isEmpty then throw .emptyHost
  let host ← kind.readHost hostText
  if host.isEmpty && !portText.isEmpty then throw .emptyHost
  let (port?, rest) ← readPort kind (portText.drop 1)
  let authority : Authority := ⟨user, password?, host, port?⟩
  if host.isEmpty && authority.hasCredentials then throw .emptyHost
  return (authority, rest)

theorem readAuthority_eq (kind : Kind) (text : List Char) :
    readAuthority kind text =
      let (credentials, place) := (cutLastAt? text).getD ([], text)
      let (user, password?) := readCredentials credentials
      authorityAt kind user password? place :=
  rfl

theorem hasCredentials_of_password (user password : List Char) (host : Host)
    (port? : Option UInt16) :
    (Authority.mk user (some password) host port?).hasCredentials = true := by
  simp [Authority.hasCredentials]

/-- A password is passed on, and nothing else depends on what it is. -/
theorem authorityAt_some (kind : Kind) (user password place : List Char) :
    authorityAt kind user (some password) place =
      (authorityAt kind user (some []) place).map fun (authority, rest) =>
        (authority.withPassword password, rest) := by
  unfold authorityAt
  obtain ⟨hostText, portText⟩ := cutPort false place
  -- whatever the password is, it is a credential, and so a host is required
  simp only [hasCredentials_of_password]
  cases kind.isSpecial && hostText.isEmpty with
  | true => rfl
  | false =>
      cases kind.readHost hostText with
      | error fault => rfl
      | ok host =>
          generalize readPort kind (portText.drop 1) = ported
          simp only [bind, Except.bind]
          cases host.isEmpty <;> cases portText.isEmpty <;> cases ported <;> rfl


/-! ## The place of a password -/

/-- Whether a text can stand as a password in the text of a URL. -/
structure IsPassword (password : List Char) : Prop where
  nonempty : password ≠ []
  plain : ∀ c ∈ password, c ≠ '/' ∧ c ≠ '?' ∧ c ≠ '#' ∧ isBreak c = false

instance (password : List Char) : Decidable (IsPassword password) :=
  haveI := List.decidableBAll (fun c => c ≠ '/' ∧ c ≠ '?' ∧ c ≠ '#' ∧ isBreak c = false) password
  decidable_of_iff
    (password ≠ [] ∧ ∀ c ∈ password, c ≠ '/' ∧ c ≠ '?' ∧ c ≠ '#' ∧ isBreak c = false)
    ⟨fun ⟨nonempty, plain⟩ => ⟨nonempty, plain⟩, fun ⟨nonempty, plain⟩ => ⟨nonempty, plain⟩⟩

theorem IsPassword.unbroken {password : List Char} (valid : IsPassword password) :
    unbroken password = password :=
  unbroken_of_forall fun c member => (valid.plain c member).2.2.2

/-- The text of an authority with credentials, without tabs and line ends, is the text up to the
first slash after the at sign. -/
theorem cut_isSlash_unbroken {user password : List Char} (plain : ∀ c ∈ user, c ≠ '/')
    (valid : IsPassword password) (second : List Char) :
    cut Kind.other.isSlash (unbroken (user ++ ':' :: password ++ '@' :: second)) =
      (unbroken user ++ ':' :: password ++ '@' :: (cut Kind.other.isSlash (unbroken second)).1,
        (cut Kind.other.isSlash (unbroken second)).2) := by
  have colon : unbroken (':' :: password) = ':' :: password := by
    rw [unbroken_cons rfl, valid.unbroken]
  have free : ∀ c ∈ unbroken user ++ ':' :: password ++ ['@'], Kind.other.isSlash c = false := by
    simp only [List.mem_append, List.mem_cons, List.not_mem_nil, or_false]
    rintro c ((member | rfl | member) | rfl)
    · simpa [Kind.isSlash, Kind.isSpecial] using plain c (mem_unbroken.mp member).1
    · rfl
    · simpa [Kind.isSlash, Kind.isSpecial] using (valid.plain c member).1
    · rfl
  rw [unbroken_append, unbroken_append, colon, unbroken_cons rfl, List.append_cons _ '@',
    cut_append_of_forall free]
  simp

/-- The authority and the path around a password are the same whatever it is. -/
theorem exists_readPlace {user : List Char} (plain : ∀ c ∈ user, c ≠ '/') (second : List Char) :
    ∃ (outcome : Except Fault (Authority × Path)) (lead trail : List Char),
      ∀ password isLast, IsPassword password →
        readPlace .other ('/' :: '/' :: (user ++ ':' :: password ++ '@' :: second)) isLast =
          outcome.map fun (authority, path) =>
            (some (authority.withPassword (encode inUserSet (lead ++ password ++ trail))), path) := by
  rcases parted : cut Kind.other.isSlash (unbroken second) with ⟨authorityEnd, pathText⟩
  obtain ⟨trail, place, lastAt⟩ := exists_cutLastAt? authorityEnd
  obtain ⟨shown, lead, credentials⟩ := exists_readCredentials (unbroken user)
  -- all that the reading is made of is known before the password is
  refine ⟨(authorityAt .other shown (some []) place).map fun (authority, rest) =>
    (authority, readPathAfter .other (rest ++ pathText)), lead, trail, ?_⟩
  intro password isLast valid
  have authorityText := cut_isSlash_unbroken plain valid second
  rw [parted] at authorityText
  have read : readAuthority .other (unbroken user ++ ':' :: password ++ '@' :: authorityEnd) =
      authorityAt .other shown (some (encode inUserSet (lead ++ password ++ trail))) place := by
    rw [readAuthority_eq, lastAt]
    simp only [Option.getD_some]
    rw [List.append_assoc, List.cons_append, credentials _ (by simp [valid.nonempty]),
      List.append_assoc]
  have named : (unbroken user ++ ':' :: password ++ '@' :: authorityEnd == ['@']) = false := by
    apply beq_false_of_ne
    intro same
    simpa using congrArg (':' ∈ ·) same
  have slash : isBreak '/' = false := rfl
  simp only [readPlace, unbroken_cons slash, authorityText, named, Bool.false_and, read]
  rw [authorityAt_some]
  cases authorityAt .other shown (some []) place <;> rfl

/-- The text of a URL of the database with a user and a password. -/
def login (user password rest : String) : String :=
  "postgres://" ++ user ++ ":" ++ password ++ "@" ++ rest

theorem login_eq (user password rest : String) :
    login user password rest =
      String.ofList (("postgres://".toList ++ user.toList ++ ':' :: password.toList) ++
        '@' :: rest.toList) := by
  apply String.toList_inj.mp
  simp [login]

/-- The scheme of a login is read, and everything after its colon is left. -/
theorem readStart?_login (text : List Char) :
    readStart? (("postgres://".toList ++ text).dropWhile isBlank) =
      some ("postgres".toList, '/' :: '/' :: text) := by
  have start : ("postgres://".toList ++ text).dropWhile isBlank =
      "postgres:".toList ++ '/' :: '/' :: text := rfl
  rw [start, readStart?, unbroken_append]
  rfl

/-- Every login that differs only in its password is read to the same URL but for the password,
or to the same fault. -/
theorem exists_ofText_login {user : String} (plain : ∀ c ∈ user.toList, c ≠ '/' ∧ c ≠ '?' ∧ c ≠ '#')
    (rest : String) :
    ∃ (outcome : Except Fault (Authority × Path)) (query? fragment? : Option (List Char))
      (lead trail : List Char), ∀ password : String, IsPassword password.toList →
        ofText (login user password rest) = outcome.map fun (authority, path) =>
          ⟨"postgres".toList, some (authority.withPassword
            (encode inUserSet (lead ++ password.toList ++ trail))), path, query?, fragment?⟩ := by
  rcases parted : cutTail .other (withoutBlankEnd rest.toList) with ⟨place, query?, fragment?⟩
  obtain ⟨outcome, lead, trail, read⟩ := exists_readPlace (fun c member => (plain c member).1) place
  refine ⟨outcome, query?, fragment?, lead, trail, ?_⟩
  intro password valid
  have free : ∀ c ∈ '/' :: '/' :: (user.toList ++ ':' :: password.toList ++ ['@']),
      c ≠ '?' ∧ c ≠ '#' := by
    simp only [List.mem_append, List.mem_cons, List.not_mem_nil, or_false]
    rintro c (rfl | rfl | (member | rfl | member) | rfl)
    · decide
    · decide
    · exact (plain c member).2
    · decide
    · exact ⟨(valid.plain c member).2.1, (valid.plain c member).2.2.1⟩
    · decide
  have tail : cutTail .other
      ('/' :: '/' :: (user.toList ++ ':' :: password.toList) ++ '@' :: withoutBlankEnd rest.toList) =
      ('/' :: '/' :: (user.toList ++ ':' :: password.toList ++ '@' :: place), query?, fragment?) := by
    simpa [parted] using cutTail_append .other free (withoutBlankEnd rest.toList)
  have kind : Kind.ofScheme "postgres".toList = .other := by decide
  rw [login_eq, ofText_append_cons rfl rfl (by decide), List.append_assoc, readStart?_login]
  simp only [ofRest, kind, tail, read _ _ valid]
  cases outcome <;> rfl

end TableStore.Url
