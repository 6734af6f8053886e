import DocQuery.Proofs.Serving
import DocQuery.Proofs.Soundness
/-!
# The identity of matchers

With a cache, a query that has been compiled has one matcher for as long as it
lives, and no other query ever has that matcher, be it of the same shape or at
the same address. This is a statement about whole histories: the log of a
history says which queries have been served which matchers
(`one_matcher_each`).

What carries it is that the cache fits the log (`Remembers`), and that no turn
of a session brings anything back to life (`LaidOut.mem_world_of_turn`): what
a session makes is new, so an entry whose query is gone is never found again.
-/


namespace DocQuery

/-! ## On an engine -/

/-- A query that is found is not compiled again. -/
theorem compile_of_find? {settings : CompileSettings} {q : Query Identity} {m : Matcher}
    {s : CompileState} (h : s.find? q.label = some m) :
    outcome (q.compile settings) s = (.ok m, s) := by
  cases q <;> rw [Query.compile, Query.compileWith, outcome_query, h]

namespace Engine

variable {engine : Engine} {alive : Nat → Bool} {known living : List (Query Identity)}
  {log : List Served} {q : Query Identity} {m : Matcher}

/-- The state of an engine that uses its cache. -/
theorem state_of_cache (h : engine.config.cacheMatchers = true) :
    engine.state = ⟨engine.nextMatcher, some engine.cache⟩ := by
  rw [Engine.state, if_pos h]

/-- **Compiling on an engine extends the log**, and the cache fits the longer
one. A matcher that is come by has been served with all its parts. -/
theorem compile_serves (hcache : engine.config.cacheMatchers = true)
    (hg : Grounds alive known living) (hparts : ∀ r ∈ q.parts, r ∈ living)
    (h : Serving known living engine.cache engine.nextMatcher log) :
    Serving known living (engine.compile alive q).2.cache (engine.compile alive q).2.nextMatcher
        (log ++ engine.served alive q) ∧
      ∀ m, (engine.compile alive q).1 = .ok m →
        ServedIn (log ++ engine.served alive q) q.parts m.parts := by
  have hserves : Serves known living (fun log m => ServedIn log q.parts m.parts)
      (q.compileWith (Compile.logging (engine.settings alive))) := q.serves hg hparts
  obtain ⟨result, log', cache', next', hrun, hserving, hpost⟩ := hserves _ _ _ h
  rw [← state_of_cache hcache, Engine.outcome_logging] at hrun
  obtain ⟨⟨rfl, rfl⟩, hstate⟩ : ((engine.compile alive q).1 = result ∧
      engine.served alive q = log') ∧
      (outcome (q.compile (engine.settings alive)) engine.state).2 = ⟨next', some cache'⟩ := by
    simpa only [Prod.mk.injEq] using hrun
  refine ⟨?_, hpost⟩
  have hengine : (engine.compile alive q).2 = engine.withState ⟨next', some cache'⟩ := by
    rw [Engine.compile_eq, hstate]
  rw [hengine]
  exact hserving

/-- **A living query that has been served is served the same matcher.** -/
theorem compile_of_served (hcache : engine.config.cacheMatchers = true)
    (hg : Grounds alive known living)
    (h : Serving known living engine.cache engine.nextMatcher log) (hq : q ∈ living)
    (hlog : ⟨q, m⟩ ∈ log) : (engine.compile alive q).1 = .ok m := by
  have hfind : engine.state.find? q.label = some m := by
    rw [state_of_cache hcache]
    exact (h.find?_iff hg.numbered hq (hg.subset q hq)).2 hlog
  rw [Engine.compile_eq, compile_of_find? hfind]

end Engine

/-! ## In a session -/

namespace Session

variable {s s' : Session} {inUse inUse' known : List (Query Identity)} {log served : List Served}

/-- **No turn brings anything back to life**: a known query that lives
afterwards has lived before. -/
theorem LaidOut.mem_world_of_turn (h : LaidOut known s inUse)
    (hturn : Turn s inUse served s' inUse') :
    ∀ q ∈ s'.world inUse', q ∈ known → q ∈ s.world inUse := by
  intro r hr hknown
  cases hturn with
  | @make _ draft q hmake =>
    obtain ⟨a, hrun, rfl⟩ := make_eq_some hmake
    rcases List.mem_append.1 hr with hr | hr
    · rcases (draft.made hrun).held_or_new r hr with ⟨name, t, hget, hr⟩ | hnew
      · exact mem_world_of_part hget hr
      · -- what is known has got its serial number before
        have hlt : r.label.serial < s.nextSerial := h.layout.serial_lt r hknown
        have hle : s.nextSerial ≤ r.label.serial := hnew
        omega
    · exact hr
  | hold name => exact mem_world_of_hold hr
  | release => exact mem_world_of_nil hr
  | dropQuery name => exact mem_world_of_erase hr
  | setMatchers matchers => exact hr
  | compile hq => exact hr
  | count => exact hr

/-- A session is what compilation may rely on. -/
theorem LaidOut.grounds (h : LaidOut known s inUse) :
    Grounds (s.alive (Query.labelsOf inUse)) known (s.world inUse) where
  numbered := h.layout.numbered
  placed := h.layout.placed
  subset := h.subset
  alive q hq := alive_iff.2 ⟨q, hq, rfl⟩

/-- The session uses its cache, which fits the log of what has been
served. -/
def Remembers (s : Session) (inUse : List (Query Identity)) (log : List Served) : Prop :=
  s.engine.config.cacheMatchers = true ∧ ∃ known, LaidOut known s inUse ∧
    Serving known (s.world inUse) s.engine.cache s.engine.nextMatcher log

/-- **Every turn is remembered.** -/
theorem Remembers.turn (h : Remembers s inUse log) (hturn : Turn s inUse served s' inUse') :
    Remembers s' inUse' (log ++ served) := by
  obtain ⟨hcache, known, hlaid, hserving⟩ := h
  obtain ⟨known', hsub, hlaid'⟩ := hlaid.turn hturn
  have hback := hlaid.mem_world_of_turn hturn
  cases hturn with
  | make hmake =>
    obtain ⟨a, -, rfl⟩ := make_eq_some hmake
    rw [List.append_nil]
    exact ⟨hcache, known', hlaid', hserving.revise hsub hback⟩
  | hold _ | release | dropQuery _ | setMatchers _ =>
    rw [List.append_nil]
    exact ⟨hcache, known', hlaid', hserving.revise hsub hback⟩
  | @compile _ q hq =>
    have hparts : ∀ r ∈ q.parts, r ∈ s.world inUse := fun r hr => Query.partsOf_trans hr _ hq
    obtain ⟨hserving', -⟩ := Engine.compile_serves hcache hlaid.grounds hparts hserving
    exact ⟨hcache, known', hlaid', hserving'.revise hsub hback⟩
  | count =>
    rw [List.append_nil]
    exact ⟨hcache, known', hlaid', (hserving.purge hlaid.grounds.alive).revise hsub hback⟩

/-- **Every history is remembered**, from a new session with a cache on. -/
theorem remembers_after (placement : Placement) (sorting : Sorting) (config : Config)
    (events : List Event) :
    Remembers ((new placement sorting { config with cacheMatchers := true }).after events) []
      ((new placement sorting { config with cacheMatchers := true }).log events) := by
  have hnew : Remembers (new placement sorting { config with cacheMatchers := true }) [] [] :=
    ⟨rfl, [], laidOut_new placement sorting _, .nil _ _ _⟩
  exact (turns_after _ events).keeps (fun h hturn => h.turn hturn) hnew

end Session

/-- **One matcher each.** In every history of a session with a cache, wherever
queries are laid out:

* two queries that have been served are the same query exactly if their
  matchers are the same one;
* the parts of a matcher are the matchers that the parts of its query have
  been served;
* while a query lives that has been served, the cache holds its matcher, and
  compiling it succeeds with that matcher;
* whatever the cache gives for a query has been served for that query;
* what compiling a living query gives is served to it along with the history.
-/
theorem one_matcher_each (placement : Placement) (sorting : Sorting) (config : Config)
    (events : List Event) :
    let start := Session.new placement sorting { config with cacheMatchers := true }
    let s := start.after events
    let log := start.log events
    (∀ e ∈ log, ∀ e' ∈ log,
      (e.query.label.serial = e'.query.label.serial ↔ e.matcher.isSame e'.matcher = true) ∧
      (e.query.label.serial = e'.query.label.serial →
        e.query = e'.query ∧ e.matcher = e'.matcher)) ∧
    (∀ e ∈ log, List.Forall₂ (fun r n => (⟨r, n⟩ : Served) ∈ log) e.query.parts e.matcher.parts) ∧
    (∀ e ∈ log, s.alive [] e.query.label.serial = true →
      s.engine.cache.find? e.query.label = some e.matcher ∧
      (s.engine.compile (s.alive []) e.query).1 = .ok e.matcher) ∧
    (∀ id m, s.engine.cache.find? id = some m → ∃ e ∈ log, e.query.label = id ∧ e.matcher = m) ∧
    (∀ q ∈ s.world [], ∀ m, (s.engine.compile (s.alive []) q).1 = .ok m →
      List.Forall₂ (fun r n => (⟨r, n⟩ : Served) ∈ log ++ s.engine.served (s.alive []) q)
        q.parts m.parts) := by
  intro start s log
  have hremembers : s.Remembers [] log := Session.remembers_after placement sorting config events
  obtain ⟨hcache, known, hlaid, hserving⟩ := hremembers
  have hg : Grounds (s.alive []) known (s.world []) := hlaid.grounds
  have hquery : ∀ e ∈ log, ∀ e' ∈ log, e.query.label.serial = e'.query.label.serial →
      e.query = e'.query := fun e he e' he' =>
    hg.numbered _ (hserving.known_of_mem e he) _ (hserving.known_of_mem e' he')
  refine ⟨fun e he e' he' => ⟨⟨fun heq => ?_, fun hsame => ?_⟩, fun heq => ?_⟩,
    hserving.whole, fun e he halive => ?_, fun id m hm => hserving.mem_of_find? hm,
    fun q hq m hm => ?_⟩
  · have hmatcher := hserving.unique e he e' he' (hquery e he e' he' heq)
    rw [hmatcher]
    exact beq_self_eq_true _
  · have hserial : e.matcher.serial = e'.matcher.serial := eq_of_beq hsame
    rw [hserving.distinct e he e' he' hserial]
  · have hsame := hquery e he e' he' heq
    exact ⟨hsame, hserving.unique e he e' he' hsame⟩
  · -- the serial number is alive because the query itself is
    obtain ⟨q, hq, hserial⟩ := (@Session.alive_iff s [] _).1 halive
    have hlives : e.query ∈ s.world [] := by
      rwa [← hg.numbered _ (hg.subset q hq) _ (hserving.known_of_mem e he) hserial]
    exact ⟨(hserving.find?_iff hg.numbered hlives (hg.subset _ hlives)).2 he,
      Engine.compile_of_served hcache hg hserving hlives he⟩
  · have hparts : ∀ r ∈ q.parts, r ∈ s.world [] := fun r hr => Query.partsOf_trans hr _ hq
    exact (Engine.compile_serves hcache hg hparts hserving).2 m hm

/-- A query that lies where an earlier one lay, which is gone, gets a matcher
of its own. -/
theorem matcher_at_reused_address :
    let start := Session.new .above .strict { ({} : Config) with cacheMatchers := true }
    let events : List Event :=
      [.step (.store "a" (.fields .new [])), .step (.compile "m" "a"), .step (.dropQuery "a"),
        .step (.store "b" (.fields .new [])), .step (.compile "n" "b")]
    let e : Served := ⟨.fields ⟨0, 1⟩ [], .fields 0 []⟩
    let e' : Served := ⟨.fields ⟨1, 1⟩ [], .fields 1 []⟩
    e ∈ start.log events ∧ e' ∈ start.log events ∧
      e.query.label.address = e'.query.label.address ∧ e.matcher.isSame e'.matcher = false := by
  intro start events e e'
  have hlog : start.log events = [e, e'] := by rfl
  have he : e ∈ start.log events := hlog ▸ List.mem_cons_self
  have he' : e' ∈ start.log events := hlog ▸ List.mem_cons_of_mem _ List.mem_cons_self
  have hiff := ((one_matcher_each .above .strict {} events).1 e he e' he').1
  have hdistinct : e.query.label.serial ≠ e'.query.label.serial := Nat.zero_ne_one
  have hsame : e.matcher.isSame e'.matcher ≠ true := fun h => hdistinct (hiff.2 h)
  exact ⟨he, he', rfl, Bool.eq_false_iff.2 hsame⟩

end DocQuery
