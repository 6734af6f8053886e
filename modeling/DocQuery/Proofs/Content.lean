import Mathlib.Data.List.Basic
import DocQuery.Proofs.Meaning
import DocQuery.Proofs.Results
/-!
# The content of a compiled query

What compiling a query comes to, apart from serial numbers and the cache,
depends on the query alone: `Query.content` reads it in the same order and
gives every matcher the number zero. This file shows that the content has the
meaning of the query (`Query.accepts_content`), and that a matcher accepts what
its content accepts (`accepts_unnumbered`). That the matchers which an engine
makes have this content is shown where the cache enters.

Labels do not matter to the content (`content_mapLabel`).
-/


namespace DocQuery

open Compile

/-! ## Matchers without their numbers -/

mutual

/-- The matcher with every serial number set to zero. -/
def Matcher.unnumbered : Matcher → Matcher
  | .logical _ all any custom =>
    .logical 0 (Matcher.allUnnumbered all) (Matcher.allUnnumbered any) custom
  | .fields _ tests => .fields 0 (Test.allUnnumbered tests)
  termination_by structural matcher => matcher

/-- The matchers with every serial number set to zero. -/
def Matcher.allUnnumbered : List Matcher → List Matcher
  | [] => []
  | matcher :: rest => matcher.unnumbered :: Matcher.allUnnumbered rest
  termination_by structural matchers => matchers

/-- The field tests with every serial number set to zero. -/
def Test.allUnnumbered : List (Path × Test) → List (Path × Test)
  | [] => []
  | (path, test) :: rest => (path, test.unnumbered) :: Test.allUnnumbered rest
  termination_by structural tests => tests

/-- The test with every serial number set to zero. -/
def Test.unnumbered : Test → Test
  | .literal v => .literal v
  | .checks checks => .checks (Check.allUnnumbered checks)
  termination_by structural test => test

/-- The checks with every serial number set to zero. -/
def Check.allUnnumbered : List Check → List Check
  | [] => []
  | check :: rest => check.unnumbered :: Check.allUnnumbered rest
  termination_by structural checks => checks

/-- The check with every serial number set to zero. -/
def Check.unnumbered : Check → Check
  | .eq v => .eq v
  | .ne v => .ne v
  | .compare operand accept => .compare operand accept
  | .among set => .among set
  | .notAmong set => .notAmong set
  | .present expected => .present expected
  | .regex regex => .regex regex
  | .not test => .not test.unnumbered
  | .allOf set => .allOf set
  | .someOf set => .someOf set
  | .size n => .size n
  | .elemMatch matcher => .elemMatch matcher.unnumbered
  | .never => .never
  termination_by structural check => check

end

/-- Dropping numbers keeps the number of matchers. -/
@[simp] theorem length_allUnnumbered (matchers : List Matcher) :
    (Matcher.allUnnumbered matchers).length = matchers.length := by
  induction matchers with
  | nil => rfl
  | cons matcher rest ih => simp [Matcher.allUnnumbered, ih]

/-- Dropping numbers keeps the paths of the field tests. -/
@[simp] theorem map_fst_allUnnumbered (tests : List (Path × Test)) :
    (Test.allUnnumbered tests).map Prod.fst = tests.map Prod.fst := by
  induction tests with
  | nil => rfl
  | cons test rest ih => simp [Test.allUnnumbered, ih]

mutual

/-- **Numbers do not matter to acceptance.** -/
theorem Matcher.accepts_unnumbered (root : Root) :
    (m : Matcher) → m.unnumbered.accepts root = m.accepts root
  | .logical _ all any custom => by
    have hempty : (Matcher.allUnnumbered any).isEmpty = any.isEmpty := by
      cases any <;> rfl
    rw [Matcher.unnumbered, Matcher.accepts, Matcher.accepts, Matcher.allAccept_unnumbered root all,
      Matcher.anyAccepts_unnumbered root any, hempty]
  | .fields _ tests => by
    rw [Matcher.unnumbered, Matcher.accepts, Matcher.accepts, Test.allAccept_unnumbered root tests]
  termination_by structural m => m

/-- Numbers do not matter to a group of which all accept. -/
theorem Matcher.allAccept_unnumbered (root : Root) : (ms : List Matcher) →
    Matcher.allAccept root (Matcher.allUnnumbered ms) = Matcher.allAccept root ms
  | [] => rfl
  | m :: rest => by
    rw [Matcher.allUnnumbered, Matcher.allAccept, Matcher.allAccept, m.accepts_unnumbered root,
      Matcher.allAccept_unnumbered root rest]
  termination_by structural ms => ms

/-- Numbers do not matter to a group of which some accept. -/
theorem Matcher.anyAccepts_unnumbered (root : Root) : (ms : List Matcher) →
    Matcher.anyAccepts root (Matcher.allUnnumbered ms) = Matcher.anyAccepts root ms
  | [] => rfl
  | m :: rest => by
    rw [Matcher.allUnnumbered, Matcher.anyAccepts, Matcher.anyAccepts, m.accepts_unnumbered root,
      Matcher.anyAccepts_unnumbered root rest]
  termination_by structural ms => ms

/-- Numbers do not matter to field tests. -/
theorem Test.allAccept_unnumbered (root : Root) : (tests : List (Path × Test)) →
    Test.allAccept root (Test.allUnnumbered tests) = Test.allAccept root tests
  | [] => rfl
  | (path, test) :: rest => by
    have htest : (fun v => test.unnumbered.accepts v) = fun v => test.accepts v :=
      funext fun v => test.accepts_unnumbered v
    rw [Test.allUnnumbered, Test.allAccept, Test.allAccept, htest,
      Test.allAccept_unnumbered root rest]
  termination_by structural tests => tests

/-- Numbers do not matter to a test. -/
theorem Test.accepts_unnumbered (v : Option Value) :
    (test : Test) → test.unnumbered.accepts v = test.accepts v
  | .literal _ => rfl
  | .checks checks => by
    rw [Test.unnumbered, Test.accepts, Test.accepts, Check.allAccept_unnumbered v checks]
  termination_by structural test => test

/-- Numbers do not matter to checks. -/
theorem Check.allAccept_unnumbered (v : Option Value) : (checks : List Check) →
    Check.allAccept v (Check.allUnnumbered checks) = Check.allAccept v checks
  | [] => rfl
  | check :: rest => by
    rw [Check.allUnnumbered, Check.allAccept, Check.allAccept, check.accepts_unnumbered v,
      Check.allAccept_unnumbered v rest]
  termination_by structural checks => checks

/-- Numbers do not matter to a check. -/
theorem Check.accepts_unnumbered (v : Option Value) :
    (check : Check) → check.unnumbered.accepts v = check.accepts v
  | .not test => by
    rw [Check.unnumbered, Check.accepts, Check.accepts, test.accepts_unnumbered v]
  | .elemMatch matcher => by
    have hmatcher : (fun item => matcher.unnumbered.accepts (.value item)) =
        fun item => matcher.accepts (.value item) :=
      funext fun item => matcher.accepts_unnumbered (.value item)
    rw [Check.unnumbered, Check.accepts, Check.accepts, hmatcher]
  | .eq _ | .ne _ | .compare _ _ | .among _ | .notAmong _ | .present _ | .regex _
  | .allOf _ | .someOf _ | .size _ | .never => rfl
  termination_by structural check => check

end

/-- Matchers with one content accept the same roots. -/
theorem accepts_eq_of_unnumbered_eq {m m' : Matcher} (h : m.unnumbered = m'.unnumbered)
    (root : Root) : m.accepts root = m'.accepts root := by
  rw [← m.accepts_unnumbered, h, m'.accepts_unnumbered]

/-- And they have one summary. -/
theorem summary_eq_of_unnumbered_eq {m m' : Matcher} (h : m.unnumbered = m'.unnumbered) :
    m.summary = m'.summary := by
  cases m with
  | logical _ all any custom =>
    cases m' with
    | logical _ all' any' custom' =>
      simp only [Matcher.unnumbered, Matcher.logical.injEq] at h
      obtain ⟨-, hall, hany, rfl⟩ := h
      have hall : all.length = all'.length := by
        rw [← length_allUnnumbered all, hall, length_allUnnumbered]
      have hany : any.length = any'.length := by
        rw [← length_allUnnumbered any, hany, length_allUnnumbered]
      unfold Matcher.summary
      dsimp only
      rw [hall, hany]
    | fields _ _ => simp [Matcher.unnumbered] at h
  | fields _ tests =>
    cases m' with
    | logical _ _ _ _ => simp [Matcher.unnumbered] at h
    | fields _ tests' =>
      simp only [Matcher.unnumbered, Matcher.fields.injEq, true_and] at h
      have hpaths : tests.map Prod.fst = tests'.map Prod.fst := by
        rw [← map_fst_allUnnumbered tests, h, map_fst_allUnnumbered]
      have htexts : ∀ ts : List (Path × Test),
          (ts.map fun test => Quoted.string test.1.text) =
            (ts.map Prod.fst).map fun path => Quoted.string path.text := by
        intro ts
        rw [List.map_map]
        rfl
      unfold Matcher.summary
      dsimp only
      rw [htexts, htexts, hpaths]

/-! ## The content of a query -/

variable {ι : Type} {limit : Nat}

/-- The compiler without state, which gives every matcher the number zero. -/
def Compiler.plain (limit : Nat) : Compiler ι (Except EngineError) where
  path := Path.read
  regex := readRegex limit
  query _ build := do return (← build) 0

/-- What the query compiles to, or the first thing in it that cannot be
read. -/
def Query.content (limit : Nat) (query : Query ι) : Except EngineError Matcher :=
  query.compileWith (Compiler.plain limit)

/-! ## Labels -/

section Relabel

variable {κ : Type} {m : Type → Type} [Monad m]

/-- The compiler of relabelled queries, for the queries as they were. -/
def Compiler.relabel (f : ι → κ) (c : Compiler κ m) : Compiler ι m where
  path := c.path
  regex := c.regex
  query query build := c.query (query.mapLabel f) build

mutual

/-- A relabelled query is compiled as the query was. -/
theorem Query.compileWith_mapLabel (f : ι → κ) (c : Compiler κ m) :
    (q : Query ι) → (q.mapLabel f).compileWith c = q.compileWith (c.relabel f)
  | .logical label all any custom => by
    simp only [Query.mapLabel, Query.compileWith, Query.compileAllWith_mapLabel f c all,
      Query.compileAllWith_mapLabel f c any]
    rfl
  | .fields label entries => by
    simp only [Query.mapLabel, Query.compileWith, Condition.compileEntriesWith_mapLabel f c entries]
    rfl
  termination_by structural q => q

/-- The relabelled queries of a group are compiled as they were. -/
theorem Query.compileAllWith_mapLabel (f : ι → κ) (c : Compiler κ m) : (qs : List (Query ι)) →
    Query.compileAllWith c (Query.mapLabels f qs) = Query.compileAllWith (c.relabel f) qs
  | [] => rfl
  | q :: rest => by
    simp only [Query.mapLabels, Query.compileAllWith, q.compileWith_mapLabel f c,
      Query.compileAllWith_mapLabel f c rest]
  termination_by structural qs => qs

/-- Relabelled entries are compiled as they were. -/
theorem Condition.compileEntriesWith_mapLabel (f : ι → κ) (c : Compiler κ m) :
    (entries : List (String × Condition ι)) →
    Condition.compileEntriesWith c (Condition.mapLabels f entries) =
      Condition.compileEntriesWith (c.relabel f) entries
  | [] => rfl
  | (text, condition) :: rest => by
    simp only [Condition.mapLabels, Condition.compileEntriesWith,
      condition.compileWith_mapLabel f c, Condition.compileEntriesWith_mapLabel f c rest]
    rfl
  termination_by structural entries => entries

/-- A relabelled condition is compiled as it was. -/
theorem Condition.compileWith_mapLabel (f : ι → κ) (c : Compiler κ m) :
    (condition : Condition ι) →
    (condition.mapLabel f).compileWith c = condition.compileWith (c.relabel f)
  | .literal _ => rfl
  | .operators ops => by
    simp only [Condition.mapLabel, Condition.compileWith, Operator.compileAllWith_mapLabel f c ops]
  termination_by structural condition => condition

/-- Relabelled operators are compiled as they were. -/
theorem Operator.compileAllWith_mapLabel (f : ι → κ) (c : Compiler κ m) :
    (ops : List (Operator ι)) →
    Operator.compileAllWith c (Operator.mapLabels f ops) =
      Operator.compileAllWith (c.relabel f) ops
  | [] => rfl
  | op :: rest => by
    simp only [Operator.mapLabels, Operator.compileAllWith, op.compileWith_mapLabel f c,
      Operator.compileAllWith_mapLabel f c rest]
  termination_by structural ops => ops

/-- A relabelled operator is compiled as it was. -/
theorem Operator.compileWith_mapLabel (f : ι → κ) (c : Compiler κ m) :
    (op : Operator ι) → (op.mapLabel f).compileWith c = op.compileWith (c.relabel f)
  | .not condition => by
    simp only [Operator.mapLabel, Operator.compileWith, condition.compileWith_mapLabel f c]
  | .elemMatch query => by
    simp only [Operator.mapLabel, Operator.compileWith, query.compileWith_mapLabel f c]
  | .eq _ | .ne _ | .gt _ | .gte _ | .lt _ | .lte _ | .among _ | .notAmong _ | .present _
  | .regex _ _ | .allOf _ | .someOf _ | .size _ | .unknown _ => rfl
  termination_by structural op => op

end

/-- **Labels do not matter to the content.** -/
theorem content_mapLabel (f : ι → κ) (q : Query ι) :
    (q.mapLabel f).content limit = q.content limit :=
  q.compileWith_mapLabel f (Compiler.plain limit)

end Relabel

/-! ## The content has the meaning of the query -/

/-- A path that the engine can read is one that parses. -/
theorem parse_of_read {text : String} {path : Path} (h : Path.read text = .ok path) :
    Path.parse text = .ok path := by
  unfold Path.read at h
  cases hp : Path.parse text with
  | error e => simp [hp, Except.mapError] at h
  | ok p => simpa [hp, Except.mapError] using h

/-- An array has items and nothing else has. -/
theorem any_items_iff {v : Option Value} {p : List Value → Bool} :
    (v.bind Value.items?).any p = true ↔ ∃ items, v = some (.array items) ∧ p items = true := by
  cases v with
  | none => simp
  | some x => cases x <;> simp [Value.items?]

/-- Something present passes a test. -/
theorem any_iff {v : Option Value} {p : Value → Bool} :
    v.any p = true ↔ ∃ x, v = some x ∧ p x = true := by
  cases v <;> simp

/-- Membership of a value or of its items, as the set operators ask for it. -/
theorem isAmong_iff {set : List Value} {x : Value} : x.isAmong set = true ↔ x.Among set := by
  cases x <;> simp [Value.isAmong, Value.Among, Value.memberOf, Value.items?]

/-- What a comparison accepts: it is one of three outcomes. -/
theorem any_compare_iff {v : Option Value} {operand : Value} {accept : Ordering → Bool} :
    (v.bind fun x => x.compareRange? operand).any accept = true ↔
      ∃ x, v = some x ∧ ((x.compareRange? operand = some .lt ∧ accept .lt = true) ∨
        (x.compareRange? operand = some .eq ∧ accept .eq = true) ∨
        (x.compareRange? operand = some .gt ∧ accept .gt = true)) := by
  cases v with
  | none => simp
  | some x =>
    rcases h : x.compareRange? operand with - | o
    · simp [h]
    · cases o <;> simp [h]

/-- What the custom test of a logical node asks for. -/
theorem all_custom_iff {root : Root} {custom : Option (Document → Bool)} :
    (custom.all fun test => root.document?.any test) = true ↔
      ∀ test, custom = some test → ∃ d, root.document? = some d ∧ test d = true := by
  cases custom with
  | none => simp
  | some test => cases root.document? <;> simp

mutual

/-- **The content of a query has its meaning.** -/
theorem Query.accepts_content (root : Root) : (q : Query ι) → {m : Matcher} →
    q.compileWith (Compiler.plain limit) = .ok m →
    (m.accepts root = true ↔ q.Holds limit root)
  | .logical _ all any custom, m, h => by
    rw [Query.compileWith] at h
    obtain ⟨make, hmake, h⟩ := bind_eq_ok h
    obtain ⟨all', hall, hmake⟩ := bind_eq_ok hmake
    obtain ⟨any', hany, hmake⟩ := bind_eq_ok hmake
    cases hmake
    cases h
    have hall := (Query.accept_content root all hall).1
    obtain ⟨-, hany, hnil⟩ := Query.accept_content root any hany
    rw [Matcher.accepts, Query.Holds]
    rw [Bool.and_eq_true, Bool.and_eq_true, Bool.or_eq_true, hall, hany, hnil, all_custom_iff,
      and_assoc]
  | .fields _ entries, m, h => by
    rw [Query.compileWith] at h
    obtain ⟨make, hmake, h⟩ := bind_eq_ok h
    obtain ⟨tests, htests, hmake⟩ := bind_eq_ok hmake
    cases hmake
    cases h
    rw [Matcher.accepts, Query.Holds]
    exact Condition.accept_content root entries htests
  termination_by structural q => q

/-- The contents of a group have its meaning, read either way. -/
theorem Query.accept_content (root : Root) : (qs : List (Query ι)) → {ms : List Matcher} →
    Query.compileAllWith (Compiler.plain limit) qs = .ok ms →
    (Matcher.allAccept root ms = true ↔ Query.AllHold limit root qs) ∧
    (Matcher.anyAccepts root ms = true ↔ Query.AnyHolds limit root qs) ∧
    (ms.isEmpty = true ↔ qs = [])
  | [], ms, h => by
    cases h
    simp [Matcher.allAccept, Matcher.anyAccepts, Query.AllHold, Query.AnyHolds]
  | q :: rest, ms, h => by
    rw [Query.compileAllWith] at h
    obtain ⟨m, hm, h⟩ := bind_eq_ok h
    obtain ⟨ms', hms, h⟩ := bind_eq_ok h
    cases h
    have hm := q.accepts_content root hm
    obtain ⟨hall, hany, -⟩ := Query.accept_content root rest hms
    simp [Matcher.allAccept, Matcher.anyAccepts, Query.AllHold, Query.AnyHolds, hm, hall, hany]
  termination_by structural qs => qs

/-- The field tests of entries have their meaning. -/
theorem Condition.accept_content (root : Root) : (entries : List (String × Condition ι)) →
    {tests : List (Path × Test)} →
    Condition.compileEntriesWith (Compiler.plain limit) entries = .ok tests →
    (Test.allAccept root tests = true ↔ Condition.EntriesHold limit root entries)
  | [], tests, h => by
    cases h
    simp [Test.allAccept, Condition.EntriesHold]
  | (text, condition) :: rest, tests, h => by
    rw [Condition.compileEntriesWith] at h
    obtain ⟨path, hpath, h⟩ := bind_eq_ok h
    obtain ⟨test, htest, h⟩ := bind_eq_ok h
    obtain ⟨tests', htests, h⟩ := bind_eq_ok h
    cases h
    have hparse := parse_of_read hpath
    have htest := fun v => condition.accepts_content v htest
    have htests := Condition.accept_content root rest htests
    simp [Test.allAccept, Condition.EntriesHold, htest, htests, hparse, mem_reached]
  termination_by structural entries => entries

/-- The test of a condition has its meaning. -/
theorem Condition.accepts_content (v : Option Value) : (condition : Condition ι) →
    {test : Test} → condition.compileWith (Compiler.plain limit) = .ok test →
    (test.accepts v = true ↔ condition.Holds limit v)
  | .literal expected, test, h => by
    cases h
    rw [Test.accepts, Condition.Holds, any_iff]
  | .operators ops, test, h => by
    rw [Condition.compileWith] at h
    obtain ⟨checks, hchecks, h⟩ := bind_eq_ok h
    cases h
    rw [Test.accepts, Condition.Holds]
    exact Operator.accept_content v ops hchecks
  termination_by structural condition => condition

/-- The checks of operators have their meaning. -/
theorem Operator.accept_content (v : Option Value) : (ops : List (Operator ι)) →
    {checks : List Check} → Operator.compileAllWith (Compiler.plain limit) ops = .ok checks →
    (Check.allAccept v checks = true ↔ Operator.AllHold limit v ops)
  | [], checks, h => by
    cases h
    simp [Check.allAccept, Operator.AllHold]
  | op :: rest, checks, h => by
    rw [Operator.compileAllWith] at h
    obtain ⟨check, hcheck, h⟩ := bind_eq_ok h
    obtain ⟨checks', hchecks, h⟩ := bind_eq_ok h
    cases h
    have hcheck := op.accepts_content v hcheck
    have hchecks := Operator.accept_content v rest hchecks
    rw [Check.allAccept, Operator.AllHold, Bool.and_eq_true, hcheck, hchecks]
  termination_by structural ops => ops

/-- **Each check follows the operator table.** -/
theorem Operator.accepts_content (v : Option Value) : (op : Operator ι) → {check : Check} →
    op.compileWith (Compiler.plain limit) = .ok check →
    (check.accepts v = true ↔ op.Holds limit v)
  | .eq expected, check, h => by
    cases h
    rw [Check.accepts, Operator.Holds, any_iff]
  | .ne expected, check, h => by
    cases h
    rw [Check.accepts, Operator.Holds, ← any_iff]
    simp
  | .gt operand, check, h => by
    cases h
    rw [Check.accepts, Operator.Holds, any_compare_iff]
    simp [Ordering.isGT]
  | .gte operand, check, h => by
    cases h
    rw [Check.accepts, Operator.Holds, any_compare_iff]
    simp [Ordering.isGE, or_comm]
  | .lt operand, check, h => by
    cases h
    rw [Check.accepts, Operator.Holds, any_compare_iff]
    simp [Ordering.isLT]
  | .lte operand, check, h => by
    cases h
    rw [Check.accepts, Operator.Holds, any_compare_iff]
    simp [Ordering.isLE]
  | .among set, check, h => by
    cases h
    rw [Check.accepts, Operator.Holds, any_iff]
    simp only [isAmong_iff]
  | .notAmong set, check, h => by
    cases h
    rw [Check.accepts, Operator.Holds]
    simp only [← isAmong_iff, ← any_iff]
    simp
  | .present expected, check, h => by
    cases h
    rw [Check.accepts, Operator.Holds]
    cases v <;> cases expected <;> simp
  | .regex pattern options, check, h => by
    rw [Operator.compileWith] at h
    obtain ⟨regex, hregex, h⟩ := bind_eq_ok h
    cases h
    have hread : readRegex limit pattern options = .ok regex := hregex
    rw [Operator.Holds]
    cases v with
    | none => simp [Check.accepts]
    | some x => cases x <;> simp [Check.accepts, hread]
  | .not condition, check, h => by
    rw [Operator.compileWith] at h
    obtain ⟨test, htest, h⟩ := bind_eq_ok h
    cases h
    rw [Check.accepts, Operator.Holds, ← condition.accepts_content v htest]
    simp
  | .allOf set, check, h => by
    cases h
    rw [Check.accepts, Operator.Holds, any_items_iff]
    simp [Value.memberOf]
  | .someOf set, check, h => by
    cases h
    rw [Check.accepts, Operator.Holds, any_items_iff]
    simp [Value.memberOf]
  | .size n, check, h => by
    cases h
    rw [Check.accepts, Operator.Holds, any_items_iff]
    simp
  | .elemMatch query, check, h => by
    rw [Operator.compileWith] at h
    obtain ⟨matcher, hmatcher, h⟩ := bind_eq_ok h
    cases h
    have hitem := fun item => query.accepts_content (.value item) hmatcher
    rw [Check.accepts, Operator.Holds, any_items_iff]
    simp only [List.any_eq_true, hitem]
  | .unknown _, check, h => by
    cases h
    simp [Check.accepts, Operator.Holds]
  termination_by structural op => op

end

end DocQuery
