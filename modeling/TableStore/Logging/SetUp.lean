import TableStore.Error.Basic
import TableStore.Logging.Filter

/-!
# Setting up logging

Logging is set up once. The directives that are given decide what is logged, and without
any the wish for more or for less: the targets of this library get the level that was
wished for, all others warnings, or errors if little is wanted. The names of the targets
are shown where very much is wanted.
-/

namespace TableStore

namespace Logging

/-- What is logged, and whether the names of the targets are shown. -/
structure SetUp where
  filter : Filter
  showsTarget : Bool
deriving DecidableEq

/-- The level that is wished for, given how often more was asked for. -/
def wishedLevel (verbosity : Nat) (quiet : Bool) : Level :=
  if quiet then .error
  else
    match verbosity with
    | 0 => .info
    | 1 => .debug
    | _ => .trace

/-- The filter without directives. -/
def usualFilter (verbosity : Nat) (quiet : Bool) : Filter :=
  let level := wishedLevel verbosity quiet
  ⟨[⟨none, some (if quiet then .error else .warn)⟩, ⟨some "strata_core".toList, some level⟩,
    ⟨some "strata_schema".toList, some level⟩]⟩

/-- Set up logging where it was set up before, or not yet. -/
def setUp (before? : Option SetUp) (verbosity : Nat) (quiet : Bool)
    (directives? : Option String) : Except Error SetUp := do
  let filter ← match directives? with
    | none => pure (usualFilter verbosity quiet)
    | some directives =>
        (Filter.ofText directives).mapError fun fault =>
          .configuration (.logDirectives directives fault)
  match before? with
  | some _ => throw (.configuration .loggingTwice)
  | none => return ⟨filter, 1 < verbosity⟩

end Logging

end TableStore
