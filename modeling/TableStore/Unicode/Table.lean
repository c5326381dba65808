import TableStore.Hex

/-!
# Tables of characters

What a standard says about characters is held in tables of runs. A row is a text of
entries between blanks; an entry names a run of code points in base sixteen, such as
`41-5A`, or `100-12E/2` for every second one, and after a colon what it says about them.
Entries that are not of this form say nothing.
-/

namespace TableStore.Unicode

/-- A run of code points from the first to the last in steps. -/
structure Run where
  first : Nat
  last : Nat
  step : Nat
deriving DecidableEq, Repr

namespace Run

/-- Whether a code point lies in a run. -/
def holds (run : Run) (n : Nat) : Bool :=
  run.first ≤ n && n ≤ run.last && (n - run.first) % run.step == 0

/-- The place of a code point in a run. -/
def place (run : Run) (n : Nat) : Nat :=
  (n - run.first) / run.step

/-- The run that a text names. -/
def ofText? (text : List Char) : Option Run :=
  match (text.splitOnP fun c => c == '-' || c == '/').mapM (Hex.readBase? 16) with
  | some [first] => some ⟨first, first, 1⟩
  | some [first, last] => some ⟨first, last, 1⟩
  | some [first, last, step] => some ⟨first, last, step⟩
  | _ => none

end Run

/-- The entries of rows: the text of a run, and what stands after its colon. -/
def entries (rows : List String) : List (List Char × List Char) :=
  (rows.flatMap fun row => row.toList.splitOnP (· == ' ')).map fun entry =>
    (entry.takeWhile (· != ':'), (entry.dropWhile (· != ':')).drop 1)

/-- The runs of rows, each with a value that is read from the text after its colon. -/
def readTable {α : Type} (value? : List Char → Option α) (rows : List String) :
    Array (Run × α) :=
  ((entries rows).filterMap fun (run, value) => do
    return (← Run.ofText? run, ← value? value)).toArray

/-- What a table says about a character. -/
def find? {α : Type} (table : Array (Run × α)) (c : Char) : Option α :=
  (table.find? fun (run, _) => run.holds c.toNat).map (·.2)

/-- The characters that code points between full stops name. -/
def charactersOfText? (text : List Char) : Option (List Char) :=
  if text.isEmpty then some []
  else ((text.splitOnP (· == '.')).mapM (Hex.readBase? 16)).map (·.map Char.ofNat)

/-- Runs of characters that stand for texts. A single character stands for the first of a
run, and the characters after it for the rest; several texts between commas stand for as
many characters from the first on. -/
def readExpansions (rows : List String) : Array (Run × Array (List Char)) :=
  (readTable (fun text => (text.splitOnP (· == ',')).mapM charactersOfText?) rows).map
    fun (run, texts) => ({ run with last := max run.last (run.first + texts.length - 1) },
      texts.toArray)

/-- The text that a character stands for. -/
def expansion? (table : Array (Run × Array (List Char))) (c : Char) : Option (List Char) :=
  (table.find? fun (run, _) => run.holds c.toNat).map fun (run, texts) =>
    match texts with
    | #[[first]] => [Char.ofNat (first.toNat + (c.toNat - run.first))]
    | texts => texts.getD (run.place c.toNat) []

end TableStore.Unicode
