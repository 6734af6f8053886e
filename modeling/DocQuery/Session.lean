import DocQuery.Engine
import DocQuery.Query.Builder
/-!
# Sessions

A session is one engine together with queries and matchers held under names.
A step makes, drops or uses them, and answers with a `Reply`. A query is
alive while a name holds it or holds a query that it is part of; a matcher
keeps no query alive.

New queries are written as drafts, in which a part that the session already
holds is referred to by its name (`Origin`). Making a query gives each new
part an identity, with a serial number that was never used and an address
that no living query occupies; which free address that is, the `Placement`
says.
-/


namespace DocQuery

/-- Where a part of a draft comes from: it is new, or it is the query that
the session holds under a name. -/
inductive Origin where
  | new
  | held (name : String)

/-- The address of each new query, by its serial number and the occupied
addresses, of which it is none. -/
structure Placement where
  choose : (serial : Nat) → (occupied : List Nat) → Nat
  choose_not_mem : ∀ serial occupied, choose serial occupied ∉ occupied

/-- The highest of some addresses. -/
def Placement.highest (addresses : List Nat) : Nat := addresses.foldr max 0

/-- No address lies above the highest one. -/
theorem Placement.le_highest {a : Nat} {addresses : List Nat} (h : a ∈ addresses) :
    a ≤ Placement.highest addresses := by
  induction addresses with
  | nil => simp at h
  | cons first rest ih =>
    rcases List.mem_cons.1 h with rfl | h
    · exact Nat.le_max_left ..
    · exact Nat.le_trans (ih h) (Nat.le_max_right ..)

/-- The placement above all occupied addresses. -/
def Placement.above : Placement where
  choose _ occupied := highest occupied + 1
  choose_not_mem _ _ h := Nat.not_succ_le_self _ (le_highest h)

/-- What is needed to make queries: the next serial number, and the occupied
addresses. -/
structure Allocator where
  nextSerial : Nat
  occupied : List Nat

/-- A fresh identity. -/
def Allocator.allocate (placement : Placement) (a : Allocator) : Identity × Allocator :=
  let address := placement.choose a.nextSerial a.occupied
  (⟨a.nextSerial, address⟩, ⟨a.nextSerial + 1, address :: a.occupied⟩)

/-! ## Making queries -/

/-- A computation that makes queries; it fails when a name holds none. -/
abbrev Making (α : Type) := StateT Allocator Option α

/-- How parts of a draft become parts of a query. -/
structure MakeSettings where
  placement : Placement
  held : String → Option (Query Identity)

/-- A fresh identity. -/
def MakeSettings.fresh (settings : MakeSettings) : Making Identity :=
  modifyGet fun a => a.allocate settings.placement

/-- The query that is held under a name. -/
def MakeSettings.lookup (settings : MakeSettings) (name : String) : Making (Query Identity) :=
  StateT.lift (settings.held name)

mutual

/-- The query of a draft. -/
def Query.make (settings : MakeSettings) : Query Origin → Making (Query Identity)
  | .logical (.held name) .. => settings.lookup name
  | .fields (.held name) _ => settings.lookup name
  | .logical .new all any custom => do
    let all ← Query.makeAll settings all
    let any ← Query.makeAll settings any
    return .logical (← settings.fresh) all any custom
  | .fields .new entries => do
    let entries ← Condition.makeEntries settings entries
    return .fields (← settings.fresh) entries
  termination_by structural draft => draft

/-- The queries of several drafts. -/
def Query.makeAll (settings : MakeSettings) : List (Query Origin) → Making (List (Query Identity))
  | [] => return []
  | draft :: rest => do
    let query ← draft.make settings
    return query :: (← Query.makeAll settings rest)
  termination_by structural drafts => drafts

/-- The entries of a draft, with the queries in them made. -/
def Condition.makeEntries (settings : MakeSettings) :
    List (String × Condition Origin) → Making (List (String × Condition Identity))
  | [] => return []
  | (path, condition) :: rest => do
    let condition ← condition.make settings
    return (path, condition) :: (← Condition.makeEntries settings rest)
  termination_by structural entries => entries

/-- The condition of a draft, with the queries in it made. -/
def Condition.make (settings : MakeSettings) : Condition Origin → Making (Condition Identity)
  | .literal v => return .literal v
  | .operators ops => return .operators (← Operator.makeAll settings ops)
  termination_by structural condition => condition

/-- The operators of a draft, with the queries in them made. -/
def Operator.makeAll (settings : MakeSettings) :
    List (Operator Origin) → Making (List (Operator Identity))
  | [] => return []
  | op :: rest => do
    let op ← op.make settings
    return op :: (← Operator.makeAll settings rest)
  termination_by structural ops => ops

/-- The operator of a draft, with the queries in it made. -/
def Operator.make (settings : MakeSettings) : Operator Origin → Making (Operator Identity)
  | .eq v => return .eq v
  | .ne v => return .ne v
  | .gt v => return .gt v
  | .gte v => return .gte v
  | .lt v => return .lt v
  | .lte v => return .lte v
  | .among set => return .among set
  | .notAmong set => return .notAmong set
  | .present expected => return .present expected
  | .regex pattern options => return .regex pattern options
  | .not condition => return .not (← condition.make settings)
  | .allOf set => return .allOf set
  | .someOf set => return .someOf set
  | .size n => return .size n
  | .elemMatch draft => return .elemMatch (← draft.make settings)
  | .unknown tag => return .unknown tag
  termination_by structural op => op

end

/-! ## Sessions and their steps -/

/-- An engine, and the queries and matchers that are held under names. -/
structure Session where
  placement : Placement
  engine : Engine
  queries : List (String × Query Identity) := []
  matchers : List (String × Matcher) := []
  nextSerial : Nat := 0

/-- What can be done in a session. -/
inductive Step where
  /-- Makes a query and holds it under a name. -/
  | store (name : String) (draft : Query Origin)
  | dropQuery (name : String)
  | dropMatcher (name : String)
  /-- Compiles a query and holds its matcher under a name. -/
  | compile (matcher query : String)
  /-- Asks whether two names hold the same matcher. -/
  | same (a b : String)
  /-- Asks a matcher about a value, as a document if it is one and as a
  value. -/
  | ask (matcher : String) (v : Value)
  | filter (query : String) (documents : List Document)
  | find (query : String) (documents : List Document) (options : FindOptions)
  /-- Makes and compiles a number of queries, each for a field with a number
  of its own. Every one whose number is a multiple of `keep` is held under a
  name that ends in its number, none if `keep` is zero. -/
  | churn (stem : String) (count keep : Nat)

/-- What a step answers. -/
inductive Reply where
  | query (query : Query Identity)
  | existed (b : Bool)
  | matcher (matcher : Matcher)
  | same (b : Bool)
  | verdict (asDocument : Option Bool) (asValue : Bool)
  | positions (positions : List Nat)
  | values (values : List Value)
  /-- Sorting documents was given up. -/
  | unsorted
  | done
  | failed (error : EngineError)
  /-- A name holds nothing. -/
  | unknownName

namespace Session

/-- A session that holds nothing. -/
def new (placement : Placement) (sorting : Sorting) (config : Config) : Session :=
  { placement, engine := Engine.new sorting config }

/-- The identities of the queries that are alive, parts included. -/
def living (s : Session) : List Identity := Query.labelsOf (s.queries.map (·.2))

/-- Whether the query of a serial number is alive, or is one of those that
are in use besides. -/
def alive (s : Session) (inUse : List Identity) (serial : Nat) : Bool :=
  (inUse ++ s.living).any fun id => id.serial == serial

/-- The next serial number, and the addresses of the queries that are alive. -/
def allocator (s : Session) : Allocator := ⟨s.nextSerial, s.living.map (·.address)⟩

/-- How a session makes queries of drafts. -/
def makeSettings (s : Session) : MakeSettings :=
  ⟨s.placement, fun name => Entries.get? name s.queries⟩

/-- Makes the query of a draft. -/
def make (s : Session) (draft : Query Origin) : Option (Query Identity × Session) :=
  ((draft.make s.makeSettings).run s.allocator).map fun made =>
    (made.1, { s with nextSerial := made.2.nextSerial })

/-- Holds a query under a name. -/
def hold (s : Session) (name : String) (query : Query Identity) : Session :=
  { s with queries := Entries.insert name query s.queries }

/-- The number of matchers that are kept for queries that are alive. -/
def cachedMatchers (s : Session) : Nat × Session :=
  let (count, engine) := s.engine.cachedMatchers (s.alive [])
  (count, { s with engine })

/-- The query of a round of a churn: a field is to equal the number of the
round. -/
def churnDraft (stem : String) (i : Nat) : Query Origin :=
  .fields .new [(stem, .literal (.int32 (Int32.ofNat i)))]

/-- One round of a churn. -/
def churnOnce (s : Session) (stem : String) (keep i : Nat) : Except EngineError Unit × Session :=
  match s.make (churnDraft stem i) with
  | none => (.ok (), s)
  | some (query, s) =>
    let (result, engine) := s.engine.compile (s.alive query.labels) query
    let s := { s with engine }
    match result with
    | .error e => (.error e, s)
    | .ok _ =>
      let kept := 0 < keep ∧ i % keep = 0
      (.ok (), if kept then s.hold (stem ++ toString i) query else s)

/-- The rounds of a churn from one number on; the first that fails is the
last. -/
def churnFrom (s : Session) (stem : String) (keep : Nat) : (rounds i : Nat) →
    Except EngineError Unit × Session
  | 0, _ => (.ok (), s)
  | rounds + 1, i =>
    match s.churnOnce stem keep i with
    | (.error e, s) => (.error e, s)
    | (.ok _, s) => churnFrom s stem keep rounds (i + 1)

/-- The reply for what a plan comes to. -/
def replyOfRun {α : Type} (make : α → Reply) : Option α → Reply
  | some a => make a
  | none => .unsorted

/-- The reply for a result that may be an error. -/
def replyOf {α : Type} (make : α → Reply) : Except EngineError α → Reply
  | .ok a => make a
  | .error e => .failed e

/-- Does a step. -/
def step (s : Session) : Step → Reply × Session
  | .store name draft =>
    match s.make draft with
    | some (query, s) => (.query query, s.hold name query)
    | none => (.unknownName, s)
  | .dropQuery name =>
    (.existed (Entries.hasKey name s.queries), { s with queries := Entries.erase name s.queries })
  | .dropMatcher name =>
    (.existed (Entries.hasKey name s.matchers),
      { s with matchers := Entries.erase name s.matchers })
  | .compile name query =>
    match Entries.get? query s.queries with
    | none => (.unknownName, s)
    | some query =>
      match s.engine.compile (s.alive []) query with
      | (.ok matcher, engine) =>
        (.matcher matcher, { s with
          engine
          matchers := Entries.insert name matcher s.matchers })
      | (.error e, engine) => (.failed e, { s with engine })
  | .same a b =>
    match Entries.get? a s.matchers, Entries.get? b s.matchers with
    | some a, some b => (.same (a.isSame b), s)
    | _, _ => (.unknownName, s)
  | .ask name v =>
    match Entries.get? name s.matchers with
    | some matcher =>
      (.verdict (v.document?.map matcher.acceptsDocument) (matcher.acceptsValue v), s)
    | none => (.unknownName, s)
  | .filter name documents =>
    match Entries.get? name s.queries with
    | some query =>
      let (rows, engine) := s.engine.filter (s.alive []) query (·.1) documents.zipIdx
      (replyOf (replyOfRun fun rows => .positions (rows.map (·.2))) rows, { s with engine })
    | none => (.unknownName, s)
  | .find name documents options =>
    match Entries.get? name s.queries with
    | some query =>
      let (values, engine) := s.engine.find (s.alive []) query options id documents
      (replyOf (replyOfRun .values) values, { s with engine })
    | none => (.unknownName, s)
  | .churn stem count keep =>
    let (result, s) := s.churnFrom stem keep count 0
    (replyOf (fun _ => .done) result, s)

/-- Does steps one after another, and counts the cached matchers after
each. -/
def run (s : Session) : List Step → List (Reply × Nat) × Session
  | [] => ([], s)
  | step :: rest =>
    let (reply, s) := s.step step
    let (count, s) := s.cachedMatchers
    let (replies, s) := run s rest
    ((reply, count) :: replies, s)

end Session

end DocQuery
