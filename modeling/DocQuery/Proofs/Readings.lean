import Mathlib.Data.List.Basic
import DocQuery.Projection.Projector
import DocQuery.Proofs.Content
/-!
# What has to be read

A query and the options of a find are full of texts that have to be read:
paths, and patterns with their option letters. A template that documents are
shown by has to be an object besides. `Query.readings` and
`FindOptions.readings` list all of this in the order in which it stands, and
`Reading.problem?` says what is wrong with one of them, taken by itself.

Reading goes through the list and ends at the first problem. A computation
that does so is said to report what it reads (`Reports`): it fails with the
first problem, and succeeds if there is none. Two steps report what the first
reads and then what the second does (`reports_bind`), and from there the
content of a query reports its readings by a case for each constructor
(`Query.reports_content`).
-/


namespace DocQuery

open Compile

variable {ι α β : Type} {limit : Nat}

/-- Something that is read before any document is looked at. -/
inductive Reading where
  | path (text : String)
  /-- A pattern with its option letters. -/
  | pattern (source letters : String)
  /-- A template that has to be an object. -/
  | outline (t : Template String)

/-! ## What is wrong with a reading -/

/-- The option letters that a pattern may have. -/
def patternLetters : List Char := ['i', 'm', 's', 'x', 'g', 'u']

/-- Flags, and besides them those that letters ask for. -/
def Regex.Flags.withLetters (flags : Regex.Flags) (letters : List Char) : Regex.Flags :=
  { flags with
    ignoreCase := flags.ignoreCase || 'i' ∈ letters
    multiLine := flags.multiLine || 'm' ∈ letters
    dotAll := flags.dotAll || 's' ∈ letters
    extended := flags.extended || 'x' ∈ letters }

/-- The problem with a reading, if there is one: a path that is not
well-formed, a letter that a pattern may not have, a pattern that is not
well-formed or too large under its letters, or a template that is no object. -/
def Reading.problem? (limit : Nat) : Reading → Option EngineError
  | path text =>
    match Path.parse text with
    | .error cause => some (.invalidPath text cause)
    | .ok _ => none
  | pattern source letters =>
    match letters.toList.find? (· ∉ patternLetters) with
    | some letter => some (.unsupportedFlag letter source)
    | none =>
      match Regex.compile limit (Regex.Flags.withLetters {} letters.toList) source with
      | .ok _ => none
      | .error cause => some (.invalidRegex source letters cause)
  | outline (.object _) => none
  | outline _ => some .templateNotObject

/-- A reading has a problem, in words of what is to be read. -/
def Reading.Unreadable (limit : Nat) : Reading → Prop
  | path text => ∃ cause, Path.parse text = .error cause
  | pattern source letters =>
    (∃ letter ∈ letters.toList, letter ∉ patternLetters) ∨
      ∃ cause, Regex.compile limit (Regex.Flags.withLetters {} letters.toList) source = .error cause
  | outline t => ∀ entries, t ≠ .object entries

/-- The first problem of several readings. -/
def firstProblem? (limit : Nat) (readings : List Reading) : Option EngineError :=
  readings.findSome? (·.problem? limit)

/-! ## Readings in order -/

mutual

/-- What a query has to have read: the members of groups one after another,
and the entries of a field map in order. -/
def Query.readings : Query ι → List Reading
  | .logical _ all any _ => Query.readingsOf all ++ Query.readingsOf any
  | .fields _ entries => Condition.readingsOf entries
  termination_by structural query => query

/-- The readings of several queries. -/
def Query.readingsOf : List (Query ι) → List Reading
  | [] => []
  | query :: rest => query.readings ++ Query.readingsOf rest
  termination_by structural queries => queries

/-- The readings of entries: of each its path, and then its condition. -/
def Condition.readingsOf : List (String × Condition ι) → List Reading
  | [] => []
  | (text, condition) :: rest => .path text :: (condition.readings ++ Condition.readingsOf rest)
  termination_by structural entries => entries

/-- The readings of a condition. -/
def Condition.readings : Condition ι → List Reading
  | .literal _ => []
  | .operators ops => Operator.readingsOf ops
  termination_by structural condition => condition

/-- The readings of operators. -/
def Operator.readingsOf : List (Operator ι) → List Reading
  | [] => []
  | op :: rest => op.readings ++ Operator.readingsOf rest
  termination_by structural ops => ops

/-- The readings of an operator. -/
def Operator.readings : Operator ι → List Reading
  | .regex source letters => [.pattern source letters]
  | .not condition => condition.readings
  | .elemMatch query => query.readings
  | _ => []
  termination_by structural op => op

end

mutual

/-- The paths of a template, at every depth. -/
def Template.readings : Template String → List Reading
  | .path text => [.path text]
  | .const _ => []
  | .object entries => Template.readingsOf entries
  | .array text element => .path text :: element.readings
  termination_by structural template => template

/-- The paths of the templates of entries. -/
def Template.readingsOf : List (String × Template String) → List Reading
  | [] => []
  | (_, template) :: rest => template.readings ++ Template.readingsOf rest
  termination_by structural entries => entries

end

/-- What a projection has to have read. -/
def Projection.readings : Projection → List Reading
  | .fields paths => paths.map .path
  | .transform _ => []
  | .template t => .outline t :: t.readings

/-- What options have to have read: the sort keys, and then the
projection. -/
def FindOptions.readings (options : FindOptions) : List Reading :=
  options.sort.map (.path ·.field) ++ (options.projection.map (·.readings)).getD []

/-! ## Reporting -/

/-- A computation reports readings: it fails with their first problem, and
succeeds if they have none. -/
inductive Reports (limit : Nat) : Except EngineError α → List Reading → Prop
  | ok {a : α} {readings : List Reading} :
      firstProblem? limit readings = none → Reports limit (.ok a) readings
  | error {e : EngineError} {readings : List Reading} :
      firstProblem? limit readings = some e → Reports limit (.error e) readings

/-- What cannot be read is what has a problem. -/
theorem Reading.exists_problem_iff {r : Reading} :
    (∃ e, r.problem? limit = some e) ↔ r.Unreadable limit := by
  cases r with
  | path text => cases h : Path.parse text <;> simp [problem?, Unreadable, h]
  | outline t => cases t <;> simp [problem?, Unreadable]
  | pattern source letters =>
    simp only [problem?, Unreadable]
    cases hletter : letters.toList.find? (· ∉ patternLetters) with
    | some letter =>
      have hmem := List.mem_of_find?_eq_some hletter
      have hnot := List.find?_some hletter
      simp only [decide_eq_true_eq] at hnot
      exact ⟨fun _ => .inl ⟨letter, hmem, hnot⟩, fun _ => ⟨_, rfl⟩⟩
    | none =>
      have hall : ∀ letter ∈ letters.toList, letter ∈ patternLetters := by
        simpa using hletter
      have hno : ¬ ∃ letter ∈ letters.toList, letter ∉ patternLetters := by
        rintro ⟨letter, hmem, hnot⟩
        exact hnot (hall letter hmem)
      rw [or_iff_right hno]
      cases Regex.compile limit (Regex.Flags.withLetters {} letters.toList) source <;> simp

theorem firstProblem?_append (readings readings' : List Reading) :
    firstProblem? limit (readings ++ readings') =
      (firstProblem? limit readings).or (firstProblem? limit readings') :=
  List.findSome?_append

/-- Readings have no problem if none of them has. -/
theorem firstProblem?_eq_none {readings : List Reading} :
    firstProblem? limit readings = none ↔ ∀ r ∈ readings, ¬ r.Unreadable limit := by
  simp only [firstProblem?, List.findSome?_eq_none_iff, ← Reading.exists_problem_iff,
    ← Option.ne_none_iff_exists', not_not]

namespace Reports

variable {x : Except EngineError α} {readings readings' : List Reading}

/-- There is a result if there is no problem. -/
theorem exists_ok_iff (h : Reports limit x readings) :
    (∃ a, x = .ok a) ↔ ∀ r ∈ readings, ¬ r.Unreadable limit := by
  rw [← firstProblem?_eq_none]
  cases h with
  | ok h => simp [h]
  | error h => simp [h]

/-- A reading without a problem makes no difference. -/
theorem cons (h : Reports limit x readings) {r : Reading} (hr : r.problem? limit = none) :
    Reports limit x (r :: readings) := by
  have hfirst : firstProblem? limit (r :: readings) = firstProblem? limit readings := by
    simp [firstProblem?, hr]
  cases h with
  | ok h => exact .ok (hfirst.trans h)
  | error h => exact .error (hfirst.trans h)

end Reports

theorem reports_pure (a : α) : Reports limit (pure a) [] := .ok rfl

/-- Two steps report what the first reads, and then what the second does. -/
theorem reports_bind {x : Except EngineError α} {f : α → Except EngineError β}
    {readings readings' : List Reading} (hx : Reports limit x readings)
    (hf : ∀ a, Reports limit (f a) readings') :
    Reports limit (x >>= f) (readings ++ readings') := by
  cases hx with
  | error h =>
    refine .error ?_
    rw [firstProblem?_append, h]
    rfl
  | @ok a _ h =>
    have hsecond := hf a
    show Reports limit (f a) _
    cases hfa : f a with
    | ok b =>
      rw [hfa] at hsecond
      cases hsecond with
      | ok h' =>
        refine .ok ?_
        rw [firstProblem?_append, h, h']
        rfl
    | error e =>
      rw [hfa] at hsecond
      cases hsecond with
      | error h' =>
        refine .error ?_
        rw [firstProblem?_append, h, h']
        rfl

/-- A step that only makes something of the result reads nothing more. -/
theorem reports_bind_pure {x : Except EngineError α} {readings : List Reading}
    (hx : Reports limit x readings) (f : α → β) :
    Reports limit (x >>= fun a => pure (f a)) readings := by
  have h := reports_bind hx fun a => reports_pure (f a)
  rwa [List.append_nil] at h

/-- Nor does a function of the result. -/
theorem reports_map {x : Except EngineError α} {readings : List Reading}
    (hx : Reports limit x readings) (f : α → β) : Reports limit (x.map f) readings := by
  cases hx with
  | ok h => exact .ok h
  | error h => exact .error h

/-- Reading a path reports it. -/
theorem reports_path (text : String) : Reports limit (Path.read text) [.path text] := by
  unfold Path.read
  cases hparse : Path.parse text with
  | ok path =>
    refine .ok ?_
    simp [firstProblem?, Reading.problem?, hparse]
  | error cause =>
    refine .error ?_
    simp [firstProblem?, Reading.problem?, hparse]

/-- The flags that letters ask for, or the first letter that is not
allowed. -/
theorem regexFlags_eq (source : String) (letters : List Char) (flags : Regex.Flags) :
    regexFlags source letters flags = match letters.find? (· ∉ patternLetters) with
      | some letter => .error (.unsupportedFlag letter source)
      | none => .ok (flags.withLetters letters) := by
  induction letters generalizing flags with
  | nil => simp [regexFlags, Regex.Flags.withLetters]
  | cons letter rest ih =>
    by_cases hletter : letter ∈ patternLetters
    · -- whatever the letter asks for, the others are asked for after it
      have hfind : (letter :: rest).find? (· ∉ patternLetters) =
          rest.find? (· ∉ patternLetters) := List.find?_cons_of_neg (by simpa using hletter)
      rw [hfind]
      have hcases : letter = 'i' ∨ letter = 'm' ∨ letter = 's' ∨ letter = 'x' ∨ letter = 'g' ∨
          letter = 'u' := by simpa [patternLetters] using hletter
      rcases hcases with rfl | rfl | rfl | rfl | rfl | rfl <;>
        simp [regexFlags, ih, Regex.Flags.withLetters]
    · have hfind : (letter :: rest).find? (· ∉ patternLetters) = some letter :=
        List.find?_cons_of_pos (by simpa using hletter)
      rw [hfind]
      simp only [patternLetters, List.mem_cons, List.not_mem_nil, or_false, not_or] at hletter
      obtain ⟨hi, hm, hs, hx, hg, hu⟩ := hletter
      simp [regexFlags, hi, hm, hs, hx, hg, hu]

/-- Reading a pattern reports it, letters first. -/
theorem reports_pattern (source letters : String) :
    Reports limit (readRegex limit source letters) [.pattern source letters] := by
  unfold readRegex
  rw [regexFlags_eq]
  cases hletter : letters.toList.find? (· ∉ patternLetters) with
  | some letter =>
    refine .error ?_
    simp only [firstProblem?, List.findSome?_cons, Reading.problem?, hletter]
  | none =>
    show Reports limit ((Regex.compile limit _ source).mapError (.invalidRegex source letters)) _
    cases hregex : Regex.compile limit (Regex.Flags.withLetters {} letters.toList) source with
    | ok regex =>
      refine .ok ?_
      simp only [firstProblem?, List.findSome?_cons, List.findSome?_nil, Reading.problem?, hletter,
        hregex]
    | error cause =>
      refine .error ?_
      simp only [firstProblem?, List.findSome?_cons, Reading.problem?, hletter, hregex]

/-! ## Queries -/

/-- A query reports what building its matcher does. -/
theorem reports_query (q : Query ι) {build : Except EngineError (Nat → Matcher)}
    {readings : List Reading} (h : Reports limit build readings) :
    Reports limit ((Compiler.plain limit).query q build) readings :=
  reports_bind_pure h (· 0)

mutual

/-- **The content of a query reports its readings.** -/
theorem Query.reports_content : (q : Query ι) →
    Reports limit (q.compileWith (Compiler.plain limit)) q.readings
  | .logical _ all any custom => by
    rw [Query.compileWith, Query.readings]
    refine reports_query _ ?_
    refine reports_bind (Query.reports_contents all) fun ms => ?_
    exact reports_bind_pure (Query.reports_contents any) _
  | .fields _ entries => by
    rw [Query.compileWith, Query.readings]
    refine reports_query _ ?_
    exact reports_bind_pure (Condition.reports_contents entries) _
  termination_by structural q => q

/-- So do those of a group, -/
theorem Query.reports_contents : (qs : List (Query ι)) →
    Reports limit (Query.compileAllWith (Compiler.plain limit) qs) (Query.readingsOf qs)
  | [] => reports_pure []
  | q :: rest => by
    rw [Query.compileAllWith, Query.readingsOf]
    refine reports_bind q.reports_content fun m => ?_
    exact reports_bind_pure (Query.reports_contents rest) _
  termination_by structural qs => qs

/-- the tests of entries, -/
theorem Condition.reports_contents : (entries : List (String × Condition ι)) →
    Reports limit (Condition.compileEntriesWith (Compiler.plain limit) entries)
      (Condition.readingsOf entries)
  | [] => reports_pure []
  | (text, condition) :: rest => by
    rw [Condition.compileEntriesWith, Condition.readingsOf]
    refine reports_bind (reports_path text) fun path => ?_
    refine reports_bind condition.reports_content fun test => ?_
    exact reports_bind_pure (Condition.reports_contents rest) _
  termination_by structural entries => entries

/-- the test of a condition, -/
theorem Condition.reports_content : (condition : Condition ι) →
    Reports limit (condition.compileWith (Compiler.plain limit)) condition.readings
  | .literal v => reports_pure (Test.literal v)
  | .operators ops => by
    rw [Condition.compileWith, Condition.readings]
    exact reports_bind_pure (Operator.reports_contents ops) _
  termination_by structural condition => condition

/-- the checks of operators, -/
theorem Operator.reports_contents : (ops : List (Operator ι)) →
    Reports limit (Operator.compileAllWith (Compiler.plain limit) ops) (Operator.readingsOf ops)
  | [] => reports_pure []
  | op :: rest => by
    rw [Operator.compileAllWith, Operator.readingsOf]
    refine reports_bind op.reports_content fun check => ?_
    exact reports_bind_pure (Operator.reports_contents rest) _
  termination_by structural ops => ops

/-- and the check of an operator. -/
theorem Operator.reports_content : (op : Operator ι) →
    Reports limit (op.compileWith (Compiler.plain limit)) op.readings
  | .regex source letters => by
    rw [Operator.compileWith, Operator.readings]
    exact reports_bind_pure (reports_pattern source letters) _
  | .not condition => by
    rw [Operator.compileWith, Operator.readings]
    exact reports_bind_pure condition.reports_content _
  | .elemMatch query => by
    rw [Operator.compileWith, Operator.readings]
    exact reports_bind_pure query.reports_content _
  | .eq _ | .ne _ | .gt _ | .gte _ | .lt _ | .lte _ | .among _ | .notAmong _ | .present _
  | .allOf _ | .someOf _ | .size _ | .unknown _ => reports_pure _
  termination_by structural op => op

end

end DocQuery
