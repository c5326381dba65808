import TableStore.Proofs.Decimal.Digits
import TableStore.Proofs.Server.Dialogue
import TableStore.Server.Session

/-!
# The time limit of a session

Among the settings of a session is the time limit of each statement. The connection keeps the limit
of its configuration as it is, while the server is told whole milliseconds and what goes beyond them
is dropped. So the server may stop a statement up to a millisecond before its time, and a limit
that does not reach a millisecond becomes zero, which stands for no limit at all.
-/

namespace TableStore

open Decimal Sql Server

/-! ## What is set -/

/-- The number of milliseconds in a text that sets the time limit of statements. -/
def Sql.limitIn? (text : List Char) : Option Nat :=
  let opening := "SET statement_timeout = '".toList
  let rest := text.drop opening.length
  if opening.isPrefixOf text ∧ rest.dropWhile Char.isDigit = "ms'".toList then
    readNat? (rest.takeWhile Char.isDigit)
  else none

/-- The time limits that statements set, in milliseconds and in order. -/
def Sql.limitsSet (statements : List Statement) : List Nat :=
  statements.filterMap fun statement => limitIn? statement.text.toList

/-- The time limit that a number of milliseconds is for a server; zero stands for none. -/
def Server.limitOf? (milliseconds : Nat) : Option Duration :=
  if milliseconds = 0 then none else some (.ofMilliseconds milliseconds)

/-- A number of milliseconds is read back from the text that sets it. -/
theorem Sql.limitIn?_statementLimit (milliseconds : Nat) :
    limitIn? (Setting.statementLimit milliseconds).text.toList = some milliseconds := by
  have joined (opening ending : String) : (opening ++ String.ofList (digits milliseconds) ++
      ending).toList = opening.toList ++ (digits milliseconds ++ ending.toList) := by
    simp
  have text : (Setting.statementLimit milliseconds).text.toList =
      "SET statement_timeout = '".toList ++ (digits milliseconds ++ "ms'".toList) :=
    joined "SET statement_timeout = '" "ms'"
  have number : ∀ c ∈ digits milliseconds, c.isDigit = true := fun _ => isDigit_of_mem_digits
  have begins : ("SET statement_timeout = '".toList.isPrefixOf
      ("SET statement_timeout = '".toList ++ (digits milliseconds ++ "ms'".toList))) = true :=
    List.isPrefixOf_iff_prefix.mpr (List.prefix_append ..)
  have ends : (digits milliseconds ++ "ms'".toList).dropWhile Char.isDigit = "ms'".toList := by
    rw [List.dropWhile_append_of_pos number]
    rfl
  have between : (digits milliseconds ++ "ms'".toList).takeWhile Char.isDigit =
      digits milliseconds := by
    rw [List.takeWhile_append_of_pos number]
    exact List.append_nil _
  rw [limitIn?, text]
  simp only [List.drop_left, begins, ends, between, and_self, if_true, readNat?_digits]

/-- The settings of a session set one time limit, that of the configuration in whole
milliseconds. -/
theorem limitsSet_settings (configuration : Configuration) :
    limitsSet (configuration.settings.map .setting) =
      [configuration.statementLimit.milliseconds] := by
  have strings : limitIn? Setting.standardStrings.text.toList = none := by decide +kernel
  have zone : limitIn? Setting.utc.text.toList = none := by decide +kernel
  have named (name : String) : limitIn? (Setting.applicationName name).text.toList = none := by
    have text : (Setting.applicationName name).text.toList =
        "SET application_name = ".toList ++ (quoteString name).toList := String.toList_append
    have other (rest : List Char) : "SET statement_timeout = '".toList.isPrefixOf
        ("SET application_name = ".toList ++ rest) = false := rfl
    simp only [limitIn?, text, other, Bool.false_eq_true, false_and, if_false]
  simp only [Configuration.settings, List.map_cons, List.map_nil, limitsSet, List.filterMap_cons,
    List.filterMap_nil, Statement.text, strings, zone, named, limitIn?_statementLimit]

/-! ## Sound configurations -/

/-- A time limit without a fault is above zero and not above the greatest. -/
theorem TimeLimit.bounds_of_fault?_eq_none {limit : TimeLimit} {duration : Duration}
    (sound : limit.fault? duration = none) :
    0 < duration.nanoseconds ∧ duration.nanoseconds ≤ greatestLimit.nanoseconds := by
  unfold fault? at sound
  split at sound
  · cases sound
  · split at sound
    · cases sound
    · omega

/-- The limit of statements in a sound configuration is above zero and not above the greatest. -/
theorem Configuration.statementLimit_bounds {configuration : Configuration}
    (sound : configuration.error? = none) :
    0 < configuration.statementLimit.nanoseconds ∧
      configuration.statementLimit.nanoseconds ≤ greatestLimit.nanoseconds := by
  rw [error?, Option.map_eq_none_iff, fault?] at sound
  split at sound
  · cases sound
  · split at sound
    · cases sound
    · rw [Option.or_eq_none_iff, Option.or_eq_none_iff] at sound
      exact TimeLimit.bounds_of_fault?_eq_none sound.2.1

/-! ## Opening a connection -/

namespace Server

variable {State : Type} {server : Backend State} {state final : State} {sent : List Statement}

/-- Settings that are through have been sent one after another. -/
theorem sent_of_applySettings {settings : List Setting}
    (ends : Dialogue.Ends server (applySettings settings) state sent (.ok ()) final) :
    sent = settings.map .setting := by
  induction settings generalizing state sent with
  | nil =>
      cases ends
      rfl
  | cons setting rest ih =>
      cases ends with
      | send answered ends => rw [List.map_cons, ih ends]

/-- A connection that was opened has the environment and the limit of its configuration, and the
settings have been sent for it. -/
theorem Connection.opened {configuration : Configuration} {url : String} {greeting : Greeting}
    {connection : Connection}
    (ends : Dialogue.Ends server (openWith configuration url greeting) state sent
      (.ok connection) final) :
    configuration.error? = none ∧ sent = configuration.settings.map .setting ∧
      connection = .usable configuration.environment (some configuration.statementLimit) := by
  unfold openWith at ends
  split at ends
  · cases ends
  · cases ends
  · cases ends
  · rename_i sound
    rcases Dialogue.ends_of_bind ends with
      ⟨error, -, other⟩ | ⟨value, first, middle, more, settled, rest, rfl⟩
    · cases other
    · cases rest
      rw [List.append_nil]
      exact ⟨sound, sent_of_applySettings settled, rfl⟩

end Server

/-- A server gets a limit exactly when there is at least a millisecond. -/
theorem isSome_limitOf?_milliseconds (duration : Duration) :
    (limitOf? duration.milliseconds).isSome ↔ 1000000 ≤ duration.nanoseconds := by
  unfold limitOf? Duration.milliseconds
  split
  · rename_i zero
    simpa using zero
  · rename_i positive
    simpa using positive

/-- A sound configuration sets one time limit for the statements of a session: the whole
milliseconds of its own, up to five minutes. What goes beyond a millisecond is left out, so a server
gets a limit exactly when there is at least a millisecond. Every connection that is opened has set
it so and keeps the limit itself. -/
theorem session_limits_are_rounded_down {configuration : Configuration}
    (sound : configuration.error? = none) :
    ∃ limit, limitsSet (configuration.settings.map .setting) = [limit] ∧
      limit * 1000000 ≤ configuration.statementLimit.nanoseconds ∧
      configuration.statementLimit.nanoseconds < (limit + 1) * 1000000 ∧
      limit ≤ 300000 ∧
      ((limitOf? limit).isSome ↔ 1000000 ≤ configuration.statementLimit.nanoseconds) ∧
      ∀ {State : Type} (server : Backend State) (faults : Faults) (url : String)
        (greeting : Greeting) (state : State) (connection : Connection),
        ((Connection.openWith configuration url greeting).run server faults state).ending =
            .result (.ok connection) →
          limitsSet ((Connection.openWith configuration url greeting).run server faults
              state).statements = [limit] ∧
            connection.limit = some configuration.statementLimit := by
  have set := limitsSet_settings configuration
  have greatest : configuration.statementLimit.nanoseconds ≤ 300000 * 1000000 :=
    (Configuration.statementLimit_bounds sound).2
  refine ⟨configuration.statementLimit.milliseconds, set, ?_, ?_, ?_, ?_, ?_⟩
  · exact Nat.div_mul_le_self ..
  · exact Nat.lt_mul_of_div_lt (Nat.lt_succ_self _) (by decide)
  · exact Nat.div_le_of_le_mul (by omega)
  · exact isSome_limitOf?_milliseconds configuration.statementLimit
  · intro State server faults url greeting state connection opened
    rcases Connection.opened (Dialogue.ends_of_ending opened) with ⟨-, sent, rfl⟩
    rw [sent]
    exact ⟨set, rfl⟩

/-- A limit just below a second is set as 999 milliseconds. -/
theorem limit_below_second_is_set :
    ({ statementLimit := ⟨999999999⟩ } : Configuration).error? = none ∧
      limitsSet (({ statementLimit := ⟨999999999⟩ } : Configuration).settings.map .setting) =
        [999] ∧
      limitOf? 999 = some (.ofMilliseconds 999) := by
  have sound : ({ statementLimit := ⟨999999999⟩ } : Configuration).error? = none := by
    decide +kernel
  rcases session_limits_are_rounded_down sound with ⟨limit, set, least, greatest, -⟩
  dsimp only at least greatest
  have whole : limit = 999 := by omega
  rw [whole] at set
  exact ⟨sound, set, rfl⟩

/-- A limit of half a millisecond is sound, and what is set for it is no limit; nothing that is a
limit and less than a millisecond away from it is set. -/
theorem limit_below_millisecond_is_lost :
    ({ statementLimit := ⟨500000⟩ } : Configuration).error? = none ∧
      limitsSet (({ statementLimit := ⟨500000⟩ } : Configuration).settings.map .setting) = [0] ∧
      limitOf? 0 = none ∧
      ¬∃ limit,
        limitsSet (({ statementLimit := ⟨500000⟩ } : Configuration).settings.map .setting) =
          [limit] ∧
        1 ≤ limit ∧ 500000 < limit * 1000000 + 1000000 ∧ limit * 1000000 < 500000 + 1000000 := by
  have set := limitsSet_settings { statementLimit := ⟨500000⟩ }
  refine ⟨by decide +kernel, set, rfl, ?_⟩
  rintro ⟨limit, other, positive, -⟩
  cases set.symm.trans other
  cases positive

end TableStore
