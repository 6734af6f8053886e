import DocQuery.Cache
import DocQuery.Error
import DocQuery.Query
import DocQuery.Regex.Reader
/-!
# Compiling queries

`compile` makes a matcher of a query: it reads every path and every pattern,
in the order in which they stand, and the first that cannot be read is the
error. With a cache, the matcher of the query and of each sub-query is looked
up first and added afterwards. What has been added stays in the cache also
when compilation fails later on.

The order in which a query is gone through is said once, in
`Query.compileWith`, for any monad; how paths, patterns and matchers are come
by in it is up to a `Compiler`. The one that `compile` uses reads them and
keeps the cache.
-/


namespace DocQuery

/-- How compilation comes by paths, patterns and matchers: the matcher of a
query is made by what builds it for any serial number. -/
structure Compiler (ι : Type) (m : Type → Type) where
  path : String → m Path
  regex : (pattern options : String) → m Regex
  query : Query ι → m (Nat → Matcher) → m Matcher

section Traversal

variable {ι : Type} {m : Type → Type} [Monad m]

mutual

/-- The matcher of a query. -/
def Query.compileWith (c : Compiler ι m) : Query ι → m Matcher
  | .logical label all any custom =>
    c.query (.logical label all any custom) do
      let all ← Query.compileAllWith c all
      let any ← Query.compileAllWith c any
      return fun serial => .logical serial all any custom
  | .fields label entries =>
    c.query (.fields label entries) do
      let tests ← Condition.compileEntriesWith c entries
      return fun serial => .fields serial tests
  termination_by structural query => query

/-- The matchers of several queries. -/
def Query.compileAllWith (c : Compiler ι m) : List (Query ι) → m (List Matcher)
  | [] => return []
  | query :: rest => do
    let matcher ← query.compileWith c
    return matcher :: (← Query.compileAllWith c rest)
  termination_by structural queries => queries

/-- The field tests of entries. -/
def Condition.compileEntriesWith (c : Compiler ι m) :
    List (String × Condition ι) → m (List (Path × Test))
  | [] => return []
  | (text, condition) :: rest => do
    let path ← c.path text
    let test ← condition.compileWith c
    return (path, test) :: (← Condition.compileEntriesWith c rest)
  termination_by structural entries => entries

/-- The test of a condition. -/
def Condition.compileWith (c : Compiler ι m) : Condition ι → m Test
  | .literal v => return .literal v
  | .operators ops => return .checks (← Operator.compileAllWith c ops)
  termination_by structural condition => condition

/-- The checks of several operators. -/
def Operator.compileAllWith (c : Compiler ι m) : List (Operator ι) → m (List Check)
  | [] => return []
  | op :: rest => do
    let check ← op.compileWith c
    return check :: (← Operator.compileAllWith c rest)
  termination_by structural ops => ops

/-- The check of an operator. -/
def Operator.compileWith (c : Compiler ι m) : Operator ι → m Check
  | .eq v => return .eq v
  | .ne v => return .ne v
  | .gt v => return .compare v Ordering.isGT
  | .gte v => return .compare v Ordering.isGE
  | .lt v => return .compare v Ordering.isLT
  | .lte v => return .compare v Ordering.isLE
  | .among set => return .among set
  | .notAmong set => return .notAmong set
  | .present expected => return .present expected
  | .regex pattern options => return .regex (← c.regex pattern options)
  | .not condition => return .not (← condition.compileWith c)
  | .allOf set => return .allOf set
  | .someOf set => return .someOf set
  | .size n => return .size n
  | .elemMatch query => return .elemMatch (← query.compileWith c)
  | .unknown _ => return .never
  termination_by structural op => op

end

end Traversal

/-! ## With a cache -/

/-- What compilation depends on and does not change: the bytes that an
expression may need, and which queries are alive. -/
structure CompileSettings where
  regexSizeLimit : Nat
  alive : Nat → Bool

/-- What compilation changes: the serial number of the next matcher, and the
cache, if there is one. -/
structure CompileState where
  nextSerial : Nat
  cache : Option Cache

/-- The matcher that the cache, if there is one, holds for a query. -/
def CompileState.find? (state : CompileState) (id : Identity) : Option Matcher :=
  state.cache.bind (·.find? id)

/-- The state once a new matcher has got its serial number and has been added
to the cache, with the matcher that stands for the query from then on. -/
def CompileState.register (state : CompileState) (settings : CompileSettings) (id : Identity)
    (make : Nat → Matcher) : Matcher × CompileState :=
  let matcher := make state.nextSerial
  let nextSerial := state.nextSerial + 1
  match state.cache with
  | none => (matcher, { nextSerial, cache := none })
  | some cache =>
    let (matcher, cache) := cache.insert settings.alive id matcher
    (matcher, { nextSerial, cache := some cache })

/-- A computation that changes the compilation state and may fail. The state
that a failing computation has reached is kept. -/
abbrev Compile (α : Type) := ExceptT EngineError (StateM CompileState) α

namespace Compile

/-- A result that does not touch the state. -/
def lift {α : Type} (result : Except EngineError α) : Compile α := ExceptT.mk (pure result)

/-- The matcher that the cache holds for a query. -/
def cached? (id : Identity) : Compile (Option Matcher) := do
  return (← get).find? id

/-- Gives a new matcher its serial number, and adds it to the cache. -/
def register (settings : CompileSettings) (id : Identity) (make : Nat → Matcher) :
    Compile Matcher :=
  modifyGet (·.register settings id make)

/-- Sets the flags that option letters ask for. Two letters ask for nothing
that a test could show. -/
def regexFlags (pattern : String) : List Char → Regex.Flags → Except EngineError Regex.Flags
  | [], flags => .ok flags
  | letter :: rest, flags =>
    if letter = 'i' then regexFlags pattern rest { flags with ignoreCase := true }
    else if letter = 'm' then regexFlags pattern rest { flags with multiLine := true }
    else if letter = 's' then regexFlags pattern rest { flags with dotAll := true }
    else if letter = 'x' then regexFlags pattern rest { flags with extended := true }
    else if letter = 'g' ∨ letter = 'u' then regexFlags pattern rest flags
    else .error (.unsupportedFlag letter pattern)

/-- Reads a pattern with its option letters, letters first. -/
def readRegex (sizeLimit : Nat) (pattern options : String) : Except EngineError Regex := do
  let flags ← regexFlags pattern options.toList {}
  (Regex.compile sizeLimit flags pattern).mapError (.invalidRegex pattern options)

/-- The compiler that looks for the matcher of a query in the cache and
otherwise builds and registers it. -/
def compiler (settings : CompileSettings) : Compiler Identity Compile where
  path text := lift (Path.read text)
  regex pattern options := lift (readRegex settings.regexSizeLimit pattern options)
  query query build := do
    match ← cached? query.label with
    | some matcher => return matcher
    | none => register settings query.label (← build)

end Compile

/-- The matcher of a query. -/
def Query.compile (settings : CompileSettings) (query : Query Identity) : Compile Matcher :=
  query.compileWith (Compile.compiler settings)

end DocQuery
