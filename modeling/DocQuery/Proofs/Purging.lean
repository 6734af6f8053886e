import DocQuery.Proofs.Identity
/-!
# Purging goes unseen

A cache is looked into for living queries only, and a purge drops entries of
other queries only. So when purges are made does not matter: two caches that
give the same matchers for the living queries (`Cache.SameOn`) serve the same
matchers in the same order, and give the same matchers for the living queries
again (`Engine.compile_withCache`).

In a session this says that a step has the same reply and serves the same
matchers whatever else is in the cache (`step_withCache`). Counting the
cached matchers makes a purge, and `Session.afterTuned` sets the size at which
the cache is to make the next one; neither can be told from a history without
them, but by what is cached for queries that are gone (`afterTuned_eq`).
-/


namespace DocQuery

open Compile

variable {living : List (Query Identity)} {alive : Nat → Bool} {q r : Query Identity}

/-! ## Caches that give the same matchers -/

/-- Two caches that give the same matchers for some queries. -/
def Cache.SameOn (living : List (Query Identity)) (cache cache' : Cache) : Prop :=
  ∀ q ∈ living, cache.find? q.label = cache'.find? q.label

namespace Cache

variable {cache cache' : Cache} {m : Matcher}

/-- Adding a matcher leaves the cache keyed. -/
theorem Keyed.insert (h : cache.Keyed) (alive : Nat → Bool) (id : Identity) (m : Matcher) :
    (cache.insert alive id m).2.Keyed := by
  cases hfind : cache.find? id with
  | some earlier => rwa [insert_of_some hfind]
  | none =>
    rw [insert_of_none hfind]
    exact (h.makeRoom alive).put _ _

/-- A purge does not matter to a query that is alive. -/
theorem find?_purge (h : cache.Keyed) {id : Identity} (halive : alive id.serial = true) :
    (cache.purge alive).find? id = cache.find? id := by
  refine Option.ext fun m => ?_
  rw [find?_eq_some_iff (h.purge alive), find?_eq_some_iff h, mem_purge]
  exact and_iff_left halive

/-- Nor does it matter to such a query that room is made. -/
theorem find?_makeRoom (h : cache.Keyed) {id : Identity} (halive : alive id.serial = true) :
    (cache.makeRoom alive).find? id = cache.find? id := by
  unfold makeRoom
  split
  · exact find?_purge h halive
  · rfl

/-- What is put at an address is found there, -/
theorem find?_put_self (h : cache.Keyed) (id : Identity) (m : Matcher) :
    (cache.put id.address ⟨id.serial, m⟩).find? id = some m :=
  (find?_eq_some_iff (h.put _ _)).2 (mem_put.2 (.inl rfl))

/-- and does not matter to what is found elsewhere. -/
theorem find?_put_of_ne (h : cache.Keyed) {id : Identity} {a : Nat} (hne : id.address ≠ a)
    (entry : CacheEntry) : (cache.put a entry).find? id = cache.find? id := by
  refine Option.ext fun m => ?_
  rw [find?_eq_some_iff (h.put a entry), find?_eq_some_iff h, mem_put]
  constructor
  · rintro (heq | ⟨hmem, -⟩)
    · exact absurd (congrArg Prod.fst heq) hne
    · exact hmem
  · exact fun hmem => .inr ⟨hmem, hne⟩

/-- **Adding a matcher is alike for caches that are alike**: it gives the same
matcher, and leaves the caches alike. -/
theorem SameOn.insert (h : SameOn living cache cache') (hkeyed : cache.Keyed)
    (hkeyed' : cache'.Keyed) (hplaced : Placed living)
    (halive : ∀ q ∈ living, alive q.label.serial = true) (hq : q ∈ living) (m : Matcher) :
    (cache.insert alive q.label m).1 = (cache'.insert alive q.label m).1 ∧
      SameOn living (cache.insert alive q.label m).2 (cache'.insert alive q.label m).2 := by
  cases hfind : cache.find? q.label with
  | some earlier =>
    rw [insert_of_some hfind, insert_of_some ((h q hq).symm.trans hfind)]
    exact ⟨rfl, h⟩
  | none =>
    rw [insert_of_none hfind, insert_of_none ((h q hq).symm.trans hfind)]
    refine ⟨rfl, fun r hr => ?_⟩
    have hroom := hkeyed.makeRoom alive
    have hroom' := hkeyed'.makeRoom alive
    by_cases haddress : r.label.address = q.label.address
    · -- of the living queries only the one that is added lies there
      obtain rfl := hplaced r hr q hq haddress
      exact (find?_put_self hroom _ m).trans (find?_put_self hroom' _ m).symm
    · rw [find?_put_of_ne hroom haddress, find?_put_of_ne hroom' haddress,
        find?_makeRoom hkeyed (halive r hr), find?_makeRoom hkeyed' (halive r hr)]
      exact h r hr

end Cache

/-! ## Compilation -/

/-- Two states of compilation that are the same but for what their caches hold
for queries that are gone. -/
inductive CompileState.Alike (living : List (Query Identity)) :
    CompileState → CompileState → Prop
  | mk {next : Nat} {cache cache' : Cache} : cache.Keyed → cache'.Keyed →
      cache.SameOn living cache' → Alike living ⟨next, some cache⟩ ⟨next, some cache'⟩

/-- From states that are alike two computations come to the same, and to
states that are alike. -/
def Blind (living : List (Query Identity)) {α : Type} (x y : Logged α) : Prop :=
  ∀ s s', CompileState.Alike living s s' →
    (x.outcome s).1 = (y.outcome s').1 ∧ CompileState.Alike living (x.outcome s).2 (y.outcome s').2

/-- **Compilation is blind** to what is cached for queries that are gone. -/
theorem related_blind {settings : CompileSettings} (hplaced : Placed living)
    (halive : ∀ q ∈ living, settings.alive q.label.serial = true) :
    Compiler.Related (Blind living) (· ∈ living) (logging settings) (logging settings) where
  pure a s s' h := ⟨rfl, h⟩
  bind {α β x y f g} hx hf s s' h := by
    obtain ⟨hsame, halike⟩ := hx s s' h
    rw [Logged.outcome_bind, Logged.outcome_bind]
    generalize x.outcome s = p, y.outcome s' = p' at hsame halike
    obtain ⟨⟨result, log⟩, t⟩ := p
    obtain ⟨⟨result', log'⟩, t'⟩ := p'
    cases hsame
    cases result with
    | error e => exact ⟨rfl, halike⟩
    | ok a =>
      obtain ⟨hsame, halike⟩ := hf a t t' halike
      dsimp only
      rw [hsame]
      exact ⟨rfl, halike⟩
  path text s s' h := ⟨rfl, h⟩
  regex pattern options s s' h := ⟨rfl, h⟩
  query {q build build'} hq hbuild s s' h := by
    have hfind : s.find? q.label = s'.find? q.label := by
      cases h with
      | mk _ _ hsame => exact hsame q hq
    rw [Logged.outcome_query, Logged.outcome_query, ← hfind]
    cases s.find? q.label with
    | some m => exact ⟨rfl, h⟩
    | none =>
      obtain ⟨hsame, halike⟩ := hbuild s s' h
      generalize build.outcome s = p, build'.outcome s' = p' at hsame halike
      obtain ⟨⟨result, log⟩, t⟩ := p
      obtain ⟨⟨result', log'⟩, t'⟩ := p'
      cases hsame
      cases result with
      | error e => exact ⟨rfl, halike⟩
      | ok make =>
        obtain @⟨next, cache, cache', hkeyed, hkeyed', hsame⟩ := halike
        obtain ⟨hmatcher, hsame⟩ := hsame.insert hkeyed hkeyed' hplaced halive hq (make next)
        dsimp only [CompileState.register]
        rw [hmatcher]
        exact ⟨rfl, .mk (hkeyed.insert ..) (hkeyed'.insert ..) hsame⟩

/-- The engine with another cache. -/
def Engine.withCache (engine : Engine) (cache : Cache) : Engine := { engine with cache }

/-- **Compiling on an engine is blind** to what is cached for queries that are
gone. -/
theorem Engine.compile_withCache {engine : Engine} {known : List (Query Identity)}
    {cache : Cache} (hcache : engine.config.cacheMatchers = true)
    (hg : Grounds alive known living) (hparts : ∀ r ∈ q.parts, r ∈ living)
    (hkeyed : engine.cache.Keyed) (hkeyed' : cache.Keyed)
    (hsame : engine.cache.SameOn living cache) :
    (∃ cache', (engine.withCache cache).compile alive q =
      ((engine.compile alive q).1, (engine.compile alive q).2.withCache cache')) ∧
      (engine.withCache cache).served alive q = engine.served alive q := by
  have hblind : Blind living (q.compileWith (logging (engine.settings alive)))
      (q.compileWith (logging (engine.settings alive))) :=
    q.related (related_blind hg.placed hg.alive) hparts
  have hstate : (engine.withCache cache).state = ⟨engine.nextMatcher, some cache⟩ :=
    @Engine.state_of_cache (engine.withCache cache) hcache
  have halike : CompileState.Alike living engine.state (engine.withCache cache).state := by
    rw [hstate, Engine.state_of_cache hcache]
    exact .mk hkeyed hkeyed' hsame
  -- results and logs are the same, and what the caches hold for the living stays so
  obtain ⟨hlog, hafter⟩ := hblind _ _ halike
  have hrun' : (q.compileWith (logging (engine.settings alive))).outcome
      (engine.withCache cache).state = _ :=
    @Engine.outcome_logging (engine.withCache cache) alive q
  rw [Engine.outcome_logging, hrun', Prod.mk.injEq] at hlog
  rw [Engine.outcome_logging, hrun'] at hafter
  refine ⟨?_, hlog.2.symm⟩
  have hresult := hlog.1
  rw [@Engine.compile_eq (engine.withCache cache), @Engine.compile_eq engine] at hresult ⊢
  generalize outcome (q.compile ((engine.withCache cache).settings alive))
    (engine.withCache cache).state = p', outcome (q.compile (engine.settings alive))
    engine.state = p at hafter hresult ⊢
  obtain ⟨result, t⟩ := p
  obtain ⟨result', t'⟩ := p'
  obtain rfl : result = result' := hresult
  obtain @⟨next, cache₁, cache₂, -, -, -⟩ := hafter
  exact ⟨cache₂, rfl⟩

/-! ## Sessions -/

namespace Session

variable {s s' : Session} {inUse inUse' : List (Query Identity)} {log served : List Served}
  {cache : Cache}

/-- The session with another cache. -/
def withCache (s : Session) (cache : Cache) : Session :=
  { s with engine := s.engine.withCache cache }

/-- Turns are remembered. -/
theorem Remembers.turns (h : Remembers s inUse log) (hturns : Turns s inUse served s' inUse') :
    Remembers s' inUse' (log ++ served) :=
  hturns.keeps (fun h hturn => h.turn hturn) h

/-- **Caches that fit one log give the same matchers** for the living
queries. -/
theorem Remembers.sameOn (h : Remembers s inUse log)
    (h' : Remembers (s.withCache cache) inUse log) :
    s.engine.cache.SameOn (s.world inUse) cache := by
  obtain ⟨-, known, hlaid, hserving⟩ := h
  obtain ⟨-, known', hlaid', hserving'⟩ := h'
  intro q hq
  refine Option.ext fun m => ?_
  have hfind := hserving.find?_iff hlaid.layout.numbered hq (hlaid.subset q hq) (m := m)
  have hfind' := hserving'.find?_iff hlaid'.layout.numbered hq (hlaid'.subset q hq) (m := m)
  exact hfind.trans hfind'.symm

/-- Compiling a living query is blind to what is cached for queries that are
gone. -/
theorem Remembers.compile_withCache (h : Remembers s inUse log)
    (h' : Remembers (s.withCache cache) inUse log) (hq : q ∈ s.world inUse) :
    let alive := s.alive (Query.labelsOf inUse)
    (∃ cache', (s.withCache cache).engine.compile alive q =
      ((s.engine.compile alive q).1, (s.engine.compile alive q).2.withCache cache')) ∧
      (s.withCache cache).engine.served alive q = s.engine.served alive q := by
  have hsame := h.sameOn h'
  obtain ⟨hcache, known, hlaid, hserving⟩ := h
  obtain ⟨-, known', -, hserving'⟩ := h'
  have hparts : ∀ r ∈ q.parts, r ∈ s.world inUse := fun r hr => Query.partsOf_trans hr _ hq
  exact Engine.compile_withCache hcache hlaid.grounds hparts hserving.keyed hserving'.keyed hsame

/-- Making a query does not touch the cache. -/
theorem make_withCache (s : Session) (cache : Cache) (draft : Query Origin) :
    (s.withCache cache).make draft =
      (s.make draft).map fun made => (made.1, made.2.withCache cache) := by
  unfold make
  rw [Option.map_map]
  rfl

/-- Neither does a round of a churn go by what is cached for queries that are
gone, -/
theorem churnOnce_withCache (h : Remembers s [] log) (h' : Remembers (s.withCache cache) [] log)
    (stem : String) (keep i : Nat) :
    (∃ cache', (s.withCache cache).churnOnce stem keep i =
      ((s.churnOnce stem keep i).1, (s.churnOnce stem keep i).2.withCache cache')) ∧
      (s.withCache cache).servedOnce stem i = s.servedOnce stem i := by
  have hmade := make_withCache s cache (churnDraft stem i)
  unfold churnOnce servedOnce
  rcases hmake : s.make (churnDraft stem i) with - | ⟨q, s₁⟩
  · rw [hmake] at hmade
    rw [hmade]
    exact ⟨⟨cache, rfl⟩, rfl⟩
  · rw [hmake] at hmade
    have hself : q ∈ s₁.world [q] := mem_partsOf.2 ⟨q, List.mem_cons_self, self_mem_parts q⟩
    have hcompile := (h.turn (.make hmake)).compile_withCache (h'.turn (.make hmade)) hself
    have hlabels : Query.labelsOf [q] = q.labels := List.append_nil _
    rw [hlabels] at hcompile
    obtain ⟨⟨cache', hcompile⟩, hserved⟩ := hcompile
    replace hcompile : (s₁.withCache cache).engine.compile
        ((s₁.withCache cache).alive q.labels) q = _ := hcompile
    rw [hmade]
    refine ⟨⟨cache', ?_⟩, hserved⟩
    dsimp only [Option.map_some]
    rw [hcompile]
    rcases s₁.engine.compile (s₁.alive q.labels) q with ⟨e | m, engine⟩
    · rfl
    · dsimp only
      split <;> rfl

/-- nor do the rounds. -/
theorem churnFrom_withCache (h : Remembers s [] log) (h' : Remembers (s.withCache cache) [] log)
    (stem : String) (keep rounds i : Nat) :
    (∃ cache', (s.withCache cache).churnFrom stem keep rounds i =
      ((s.churnFrom stem keep rounds i).1, (s.churnFrom stem keep rounds i).2.withCache cache')) ∧
      (s.withCache cache).servedFrom stem keep rounds i = s.servedFrom stem keep rounds i := by
  induction rounds generalizing s cache log i with
  | zero => exact ⟨⟨cache, rfl⟩, rfl⟩
  | succ rounds ih =>
    obtain ⟨⟨cache₁, hround⟩, hserved⟩ := churnOnce_withCache h h' stem keep i
    have h₁ := h.turns (turns_churnOnce s stem keep i)
    have h₁' := h'.turns (turns_churnOnce (s.withCache cache) stem keep i)
    -- both sessions remember one log after the round too, and go on from there
    rw [hround, hserved] at h₁'
    unfold churnFrom servedFrom
    rw [hround, hserved]
    rcases hs : s.churnOnce stem keep i with ⟨e | u, s₁⟩
    · exact ⟨⟨cache₁, rfl⟩, rfl⟩
    · rw [hs] at h₁ h₁'
      obtain ⟨⟨cache₂, hrest⟩, hserved'⟩ := ih h₁ h₁' (i + 1)
      dsimp only
      rw [hrest, hserved']
      exact ⟨⟨cache₂, rfl⟩, rfl⟩

/-- Compiling the query under a name is blind too. -/
theorem servedUnder_withCache (h : Remembers s [] log)
    (h' : Remembers (s.withCache cache) [] log) (name : String) :
    (s.withCache cache).servedUnder name = s.servedUnder name := by
  have hqueries : (s.withCache cache).queries = s.queries := rfl
  unfold servedUnder
  rw [hqueries]
  rcases hget : Entries.get? name s.queries with - | q
  · rfl
  · exact (h.compile_withCache h' (mem_world_of_get? hget)).2

/-- **A step is blind** to what is cached for queries that are gone: it has the
same reply, and serves the same matchers. -/
theorem step_withCache (h : Remembers s [] log) (h' : Remembers (s.withCache cache) [] log)
    (step : Step) :
    (∃ cache', (s.withCache cache).step step =
      ((s.step step).1, (s.step step).2.withCache cache')) ∧
      (s.withCache cache).served (.step step) = s.served (.step step) := by
  have hqueries : (s.withCache cache).queries = s.queries := rfl
  have hcompile : ∀ {name q}, Entries.get? name s.queries = some q → ∃ cache',
      (s.withCache cache).engine.compile ((s.withCache cache).alive []) q =
        ((s.engine.compile (s.alive []) q).1,
          (s.engine.compile (s.alive []) q).2.withCache cache') :=
    fun hget => (h.compile_withCache h' (mem_world_of_get? hget)).1
  cases step with
  | store name draft =>
    refine ⟨?_, rfl⟩
    simp only [step, make_withCache]
    rcases s.make draft with - | ⟨q, s₁⟩ <;> exact ⟨cache, rfl⟩
  | dropQuery name => exact ⟨⟨cache, rfl⟩, rfl⟩
  | dropMatcher name => exact ⟨⟨cache, rfl⟩, rfl⟩
  | compile name query =>
    refine ⟨?_, servedUnder_withCache h h' query⟩
    simp only [step, hqueries]
    rcases hget : Entries.get? query s.queries with - | q
    · exact ⟨cache, rfl⟩
    · obtain ⟨cache', hcompile⟩ := hcompile hget
      dsimp only
      rw [hcompile]
      rcases s.engine.compile (s.alive []) q with ⟨e | m, engine⟩ <;> exact ⟨cache', rfl⟩
  | same a b =>
    refine ⟨⟨cache, ?_⟩, rfl⟩
    simp only [step, withCache]
    split <;> rfl
  | ask name v =>
    refine ⟨⟨cache, ?_⟩, rfl⟩
    simp only [step, withCache]
    split <;> rfl
  | filter name documents =>
    refine ⟨?_, servedUnder_withCache h h' name⟩
    simp only [step, hqueries]
    rcases hget : Entries.get? name s.queries with - | q
    · exact ⟨cache, rfl⟩
    · obtain ⟨cache', hcompile⟩ := hcompile hget
      dsimp only
      rw [Engine.filter_eq, Engine.filter_eq, hcompile]
      exact ⟨cache', rfl⟩
  | find name documents options =>
    refine ⟨?_, servedUnder_withCache h h' name⟩
    simp only [step, hqueries]
    rcases hget : Entries.get? name s.queries with - | q
    · exact ⟨cache, rfl⟩
    · obtain ⟨cache', hcompile⟩ := hcompile hget
      dsimp only
      rw [Engine.find_eq, Engine.find_eq, hcompile]
      exact ⟨cache', rfl⟩
  | churn stem count keep =>
    obtain ⟨⟨cache', hchurn⟩, hserved⟩ := churnFrom_withCache h h' stem keep count 0
    refine ⟨⟨cache', ?_⟩, hserved⟩
    simp only [step]
    rw [hchurn]

end Session

/-! ## Histories -/

/-- The step that an event is, if it is one. -/
def Event.step? : Event → Option Step
  | .step taken => some taken
  | .count => none

/-- The steps of a history, without the counts. -/
def Event.steps (events : List Event) : List Step := events.filterMap Event.step?

namespace Session

variable {s : Session} {log : List Served} {cache : Cache}

/-- The session with its cache set to make the next purge at a size, if one is
given. -/
def purgeAt (s : Session) : Option Nat → Session
  | none => s
  | some size => s.withCache { s.engine.cache with purgeAt := size }

/-- The session after a history in which the size of the next purge may be set
anew before each event. -/
def afterTuned (s : Session) : List (Option Nat × Event) → Session
  | [] => s
  | (size, event) :: rest => ((s.purgeAt size).handle event).2.afterTuned rest

/-- Without a size that is set it is the session after the history. -/
theorem after_eq_afterTuned (s : Session) (events : List Event) :
    s.after events = s.afterTuned (events.map fun event => (none, event)) := by
  induction events generalizing s with
  | nil => rfl
  | cons event rest ih => exact ih (s.handle event).2

/-- Setting the size of the next purge sets it in the cache, and does not
touch what is remembered. -/
theorem Remembers.purgeAt (h : Remembers (s.withCache cache) [] log) (size : Option Nat) :
    ∃ cache', (s.withCache cache).purgeAt size = s.withCache cache' ∧
      Remembers (s.withCache cache') [] log := by
  cases size with
  | none => exact ⟨cache, rfl, h⟩
  | some size =>
    obtain ⟨hcache, known, hlaid, hserving⟩ := h
    exact ⟨{ cache with purgeAt := size }, rfl, hcache, known, ⟨hlaid.subset, hlaid.layout⟩,
      { hserving with }⟩

/-- **Neither counts nor the sizes of purges can be told** from a history of
steps alone, but by what is cached for queries that are gone; and what has
been served is the same. -/
theorem afterTuned_eq (h : Remembers s [] log) (h' : Remembers (s.withCache cache) [] log)
    (tuned : List (Option Nat × Event)) :
    let steps := (Event.steps (tuned.map Prod.snd)).map Event.step
    ∃ cache', (s.withCache cache).afterTuned tuned = (s.after steps).withCache cache' ∧
      Remembers ((s.after steps).withCache cache') [] (log ++ s.log steps) := by
  induction tuned generalizing s cache log with
  | nil => exact ⟨cache, rfl, (List.append_nil log).symm ▸ h'⟩
  | cons entry rest ih =>
    obtain ⟨size, event⟩ := entry
    obtain ⟨cache₁, hsize, h₁⟩ := h'.purgeAt size
    rw [afterTuned, hsize]
    cases event with
    | count =>
      have h₂ := h₁.turns (turns_handle (s.withCache cache₁) .count)
      exact ih h (List.append_nil log ▸ h₂)
    | step taken =>
      obtain ⟨⟨cache₂, hstep⟩, hserved⟩ := step_withCache h h₁ taken
      have hafter : ((s.withCache cache₁).handle (.step taken)).2 =
          (s.handle (.step taken)).2.withCache cache₂ := congrArg Prod.snd hstep
      have h₂ := h₁.turns (turns_handle (s.withCache cache₁) (.step taken))
      rw [hafter, hserved] at h₂
      obtain ⟨cache₃, hrest, h₃⟩ := ih (h.turns (turns_handle s (.step taken))) h₂
      refine ⟨cache₃, hafter ▸ hrest, ?_⟩
      have hlog : log ++ s.log (Event.step taken :: (Event.steps (rest.map Prod.snd)).map .step) =
          log ++ s.served (.step taken) ++ (s.handle (.step taken)).2.log
            ((Event.steps (rest.map Prod.snd)).map .step) := (List.append_assoc ..).symm
      exact hlog ▸ h₃

end Session

end DocQuery
