import DocQuery.Unicode.CharSet
/-!
# Tables that map code points

A table that maps code points to numbers is kept as runs: a range of code
points, every one or every second of it, and the number that belongs to the
first. Read as values, a run gives the same number to all its members
(`Run.find?`); read as shifts, the number grows along with the code point
(`Run.image?`). `Run.listOfLines` reads the spelling of such tables.
-/


namespace DocQuery

namespace Unicode

/-- Code points from `low` to `high`, `step` apart, and the number of the
first. -/
structure Run where
  low : Nat
  high : Nat
  step : Nat
  target : Nat

namespace Run

/-- Whether a code point is a member of the run. -/
def covers (run : Run) (n : Nat) : Bool :=
  run.low ≤ n && n ≤ run.high && (n - run.low) % run.step == 0

/-- The number that the table gives to all members of a run. -/
def find? (runs : List Run) (n : Nat) : Option Nat :=
  (runs.find? (·.covers n)).map target

/-- The number that the table gives to a code point when numbers grow along
a run. -/
def image? (runs : List Run) (n : Nat) : Option Nat :=
  (runs.find? (·.covers n)).map fun run => run.target + (n - run.low)

/-- The pairs of a table whose numbers grow along a run. -/
def pairs (run : Run) : List (Nat × Nat) :=
  (List.range ((run.high - run.low) / run.step + 1)).map fun i =>
    (run.low + run.step * i, run.target + run.step * i)

/-- The run of a word such as "41:61", "41-5a:61" or "100-12e/2:101". -/
def ofWord? (word : String) : Option Run := do
  let number (s : String) : Option Nat := Hex.value? s.toList
  match word.splitOn ":" with
  | [members, target] =>
    let target ← number target
    match members.splitOn "-" with
    | [one] =>
      let one ← number one
      some ⟨one, one, 1, target⟩
    | [low, rest] =>
      let low ← number low
      match rest.splitOn "/" with
      | [high] => some ⟨low, ← number high, 1, target⟩
      | high :: _ => some ⟨low, ← number high, 2, target⟩
      | [] => none
    | _ => none
  | _ => none

/-- The runs that a table spells. -/
def listOfLines (lines : List String) : List Run :=
  (lines.flatMap (·.splitOn " ")).filterMap ofWord?

end Run

end Unicode

end DocQuery
