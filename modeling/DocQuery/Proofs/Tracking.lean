import DocQuery.Proofs.CacheLookup
import DocQuery.Proofs.Content
import DocQuery.Proofs.Layout
import DocQuery.Proofs.Outcome
/-!
# Compilation tracks the content

Compilation looks matchers up that earlier compilations have left behind, some
of them for queries that are gone. As long as the cache is sound, that is as
long as every entry has the content of the query that it was made for, this
makes no difference: `Query.compile_tracks` says that the result of compiling
a query is its content, errors included, and that the cache is sound again
afterwards, whether or not compilation has failed.
-/


namespace DocQuery

open Compile

variable {α β γ δ : Type}

/-! ## Sound caches -/

/-- Every entry was made for a known query and has the content of that
query. -/
def Cache.Sound (limit : Nat) (known : List (Query Identity)) (cache : Cache) : Prop :=
  ∀ x ∈ cache.entries, ∃ q ∈ known, q.label.serial = x.2.owner ∧
    q.content limit = .ok x.2.matcher.unnumbered

/-- The cache, if there is one, is sound. -/
def CompileState.Sound (limit : Nat) (known : List (Query Identity)) (s : CompileState) : Prop :=
  ∀ cache, s.cache = some cache → cache.Sound limit known

variable {limit : Nat} {known : List (Query Identity)}

/-- A cache with no other entries is sound too, also when more queries are
known. -/
theorem Cache.Sound.mono {cache cache' : Cache} (h : cache.Sound limit known)
    (hsub : ∀ x ∈ cache'.entries, x ∈ cache.entries) {known' : List (Query Identity)}
    (hknown : ∀ q ∈ known, q ∈ known') : cache'.Sound limit known' := by
  intro x hx
  obtain ⟨q, hq, howner⟩ := h x (hsub x hx)
  exact ⟨q, hknown q hq, howner⟩

/-- What is found for a known query has its content. -/
theorem Cache.Sound.content_of_find? {cache : Cache} (h : cache.Sound limit known)
    (hnum : Numbered known) {q : Query Identity} (hq : q ∈ known) {m : Matcher}
    (hm : cache.find? q.label = some m) : q.content limit = .ok m.unnumbered := by
  obtain ⟨r, hr, howner, hcontent⟩ := h _ (Cache.mem_of_find? hm)
  obtain rfl := hnum r hr q hq howner
  exact hcontent

/-- So has what a sound state finds. -/
theorem CompileState.Sound.content_of_find? {s : CompileState} (h : s.Sound limit known)
    (hnum : Numbered known) {q : Query Identity} (hq : q ∈ known) {m : Matcher}
    (hm : s.find? q.label = some m) : q.content limit = .ok m.unnumbered := by
  obtain ⟨cache, hcache, hm⟩ := Option.bind_eq_some_iff.1 hm
  exact (h cache hcache).content_of_find? hnum hq hm

/-- Adding a matcher with the content of its query leaves a cache sound. -/
theorem Cache.Sound.insert {cache : Cache} (h : cache.Sound limit known)
    {q : Query Identity} (hq : q ∈ known) {m : Matcher}
    (hm : q.content limit = .ok m.unnumbered) (alive : Nat → Bool) :
    (cache.insert alive q.label m).2.Sound limit known := by
  cases hfind : cache.find? q.label with
  | some earlier => rwa [Cache.insert_of_some hfind]
  | none =>
    rw [Cache.insert_of_none hfind]
    intro x hx
    rcases Cache.mem_put.1 hx with rfl | ⟨hx, -⟩
    · exact ⟨q, hq, rfl, hm⟩
    · exact h x (Cache.mem_of_mem_makeRoom hx)

/-- What registering gives back has the content of the query, and leaves the
state sound. -/
theorem CompileState.Sound.register {s : CompileState} (h : s.Sound limit known)
    (hnum : Numbered known) {q : Query Identity} (hq : q ∈ known) {make : Nat → Matcher}
    (hmake : ∀ n, q.content limit = .ok (make n).unnumbered) (settings : CompileSettings) :
    q.content limit = .ok (s.register settings q.label make).1.unnumbered ∧
      (s.register settings q.label make).2.Sound limit known := by
  unfold CompileState.register
  cases hcache : s.cache with
  | none => exact ⟨hmake _, fun cache hc => by cases hc⟩
  | some cache =>
    have hsound := h cache hcache
    refine ⟨?_, fun cache' hc => ?_⟩
    · cases hfind : cache.find? q.label with
      | some earlier =>
        simp only [Cache.insert_of_some hfind]
        exact hsound.content_of_find? hnum hq hfind
      | none =>
        simp only [Cache.insert_of_none hfind]
        exact hmake _
    · obtain rfl : (cache.insert settings.alive q.label (make s.nextSerial)).2 = cache' :=
        Option.some.inj hc
      exact hsound.insert hq (hmake _) settings.alive

/-! ## Tracking -/

/-- Two results agree: they are the same error, or related values. -/
inductive Agree (r : α → β → Prop) : Except EngineError α → Except EngineError β → Prop
  | ok {a : α} {b : β} : r a b → Agree r (.ok a) (.ok b)
  | error {e : EngineError} : Agree r (.error e) (.error e)

/-- From every sound state the computation agrees with a result and leaves
the state sound. -/
def Tracks (limit : Nat) (known : List (Query Identity)) (r : α → β → Prop) (x : Compile α)
    (y : Except EngineError β) : Prop :=
  ∀ s : CompileState, s.Sound limit known →
    Agree r (outcome x s).1 y ∧ (outcome x s).2.Sound limit known

theorem tracks_pure {r : α → β → Prop} {a : α} {b : β} (h : r a b) :
    Tracks limit known r (pure a) (pure b) :=
  fun _ hs => ⟨.ok h, hs⟩

theorem tracks_lift (result : Except EngineError α) :
    Tracks limit known Eq (Compile.lift result) result := by
  intro s hs
  rw [outcome_lift]
  refine ⟨?_, hs⟩
  cases result with
  | error e => exact .error
  | ok a => exact .ok rfl

/-- Tracking goes through two steps if the second tracks on related
values. -/
theorem tracks_bind {r : α → β → Prop} {t : γ → δ → Prop} {x : Compile α}
    {y : Except EngineError β} {f : α → Compile γ} {g : β → Except EngineError δ}
    (hx : Tracks limit known r x y)
    (hf : ∀ a b, r a b → Tracks limit known t (f a) (g b)) :
    Tracks limit known t (x >>= f) (y >>= g) := by
  intro s hs
  obtain ⟨hagree, hs⟩ := hx s hs
  rw [outcome_bind]
  rcases hout : outcome x s with ⟨result, s'⟩
  rw [hout] at hagree hs
  cases hagree with
  | ok h => exact hf _ _ h s' hs
  | error => exact ⟨.error, hs⟩

/-- A known query tracks its content if what builds its matcher does. -/
theorem tracks_query (hnum : Numbered known) {settings : CompileSettings} {q : Query Identity}
    (hq : q ∈ known) {build : Compile (Nat → Matcher)}
    {build' : Except EngineError (Nat → Matcher)}
    (hcontent : q.content limit = (Compiler.plain limit).query q build')
    (hbuild : Tracks limit known (fun make make' => ∀ n, (make n).unnumbered = make' 0)
      build build') :
    Tracks limit known (fun m c => m.unnumbered = c) ((compiler settings).query q build)
      ((Compiler.plain limit).query q build') := by
  intro s hs
  rw [outcome_query, ← hcontent]
  cases hfind : s.find? q.label with
  | some m =>
    -- whatever has left the entry behind, it has the content of this query
    rw [hs.content_of_find? hnum hq hfind]
    exact ⟨.ok rfl, hs⟩
  | none =>
    obtain ⟨hagree, hs'⟩ := hbuild s hs
    rcases hout : outcome build s with ⟨result, s'⟩
    rw [hout] at hagree hs'
    cases hagree with
    | error =>
      -- nothing is registered, so that the error comes again the next time
      rw [hcontent]
      exact ⟨.error, hs'⟩
    | @ok make make' hmake =>
      have hnew : ∀ n, q.content limit = .ok (make n).unnumbered := by
        intro n
        rw [hcontent, hmake n]
        rfl
      obtain ⟨hval, hsound⟩ := hs'.register hnum hq hnew settings
      rw [hval]
      exact ⟨.ok rfl, hsound⟩

/-! ## Compilation tracks -/

section Compilation

variable {settings : CompileSettings}

mutual

/-- **Compiling a query tracks its content**, whatever the cache holds of
its parts. -/
theorem Query.compile_tracks (hnum : Numbered known) (hlimit : settings.regexSizeLimit = limit) :
    (q : Query Identity) → (∀ r ∈ q.parts, r ∈ known) →
    Tracks limit known (fun m c => m.unnumbered = c) (q.compileWith (compiler settings))
      (q.compileWith (Compiler.plain limit))
  | .logical label all any custom, hparts => by
    rw [Query.parts, List.forall_mem_cons, List.forall_mem_append] at hparts
    obtain ⟨hself, hall, hany⟩ := hparts
    have hall := Query.compileAll_tracks hnum hlimit all hall
    have hany := Query.compileAll_tracks hnum hlimit any hany
    rw [Query.compileWith, Query.compileWith]
    refine tracks_query hnum hself rfl ?_
    refine tracks_bind hall fun ms cs hms => ?_
    refine tracks_bind hany fun ms' cs' hms' => tracks_pure fun n => ?_
    rw [Matcher.unnumbered, hms, hms']
  | .fields label entries, hparts => by
    rw [Query.parts, List.forall_mem_cons] at hparts
    obtain ⟨hself, hentries⟩ := hparts
    have hentries := Condition.compileEntries_tracks hnum hlimit entries hentries
    rw [Query.compileWith, Query.compileWith]
    refine tracks_query hnum hself rfl ?_
    refine tracks_bind hentries fun tests tests' htests => tracks_pure fun n => ?_
    rw [Matcher.unnumbered, htests]
  termination_by structural q => q

/-- Compiling a group tracks the contents of its members. -/
theorem Query.compileAll_tracks (hnum : Numbered known)
    (hlimit : settings.regexSizeLimit = limit) :
    (qs : List (Query Identity)) → (∀ r ∈ Query.partsOf qs, r ∈ known) →
    Tracks limit known (fun ms cs => Matcher.allUnnumbered ms = cs)
      (Query.compileAllWith (compiler settings) qs)
      (Query.compileAllWith (Compiler.plain limit) qs)
  | [], _ => tracks_pure rfl
  | q :: rest, hparts => by
    rw [Query.partsOf, List.forall_mem_append] at hparts
    have hq := q.compile_tracks hnum hlimit hparts.1
    have hrest := Query.compileAll_tracks hnum hlimit rest hparts.2
    rw [Query.compileAllWith, Query.compileAllWith]
    refine tracks_bind hq fun m c hm => tracks_bind hrest fun ms cs hms => tracks_pure ?_
    rw [Matcher.allUnnumbered, hm, hms]
  termination_by structural qs => qs

/-- Compiling entries tracks the contents of their conditions. -/
theorem Condition.compileEntries_tracks (hnum : Numbered known)
    (hlimit : settings.regexSizeLimit = limit) :
    (entries : List (String × Condition Identity)) →
    (∀ r ∈ Condition.partsOf entries, r ∈ known) →
    Tracks limit known (fun tests tests' => Test.allUnnumbered tests = tests')
      (Condition.compileEntriesWith (compiler settings) entries)
      (Condition.compileEntriesWith (Compiler.plain limit) entries)
  | [], _ => tracks_pure rfl
  | (text, condition) :: rest, hparts => by
    rw [Condition.partsOf, List.forall_mem_append] at hparts
    have hcondition := condition.compile_tracks hnum hlimit hparts.1
    have hrest := Condition.compileEntries_tracks hnum hlimit rest hparts.2
    rw [Condition.compileEntriesWith, Condition.compileEntriesWith]
    refine tracks_bind (tracks_lift (Path.read text)) fun path path' hpath => ?_
    refine tracks_bind hcondition fun test test' htest => ?_
    refine tracks_bind hrest fun tests tests' htests => tracks_pure ?_
    rw [Test.allUnnumbered, hpath, htest, htests]
  termination_by structural entries => entries

/-- Compiling a condition tracks its content. -/
theorem Condition.compile_tracks (hnum : Numbered known)
    (hlimit : settings.regexSizeLimit = limit) :
    (condition : Condition Identity) → (∀ r ∈ condition.parts, r ∈ known) →
    Tracks limit known (fun test test' => test.unnumbered = test')
      (condition.compileWith (compiler settings)) (condition.compileWith (Compiler.plain limit))
  | .literal _, _ => tracks_pure rfl
  | .operators ops, hparts => by
    have hops := Operator.compileAll_tracks hnum hlimit ops hparts
    rw [Condition.compileWith, Condition.compileWith]
    refine tracks_bind hops fun checks checks' hchecks => tracks_pure ?_
    rw [Test.unnumbered, hchecks]
  termination_by structural condition => condition

/-- Compiling operators tracks their contents. -/
theorem Operator.compileAll_tracks (hnum : Numbered known)
    (hlimit : settings.regexSizeLimit = limit) :
    (ops : List (Operator Identity)) → (∀ r ∈ Operator.partsOf ops, r ∈ known) →
    Tracks limit known (fun checks checks' => Check.allUnnumbered checks = checks')
      (Operator.compileAllWith (compiler settings) ops)
      (Operator.compileAllWith (Compiler.plain limit) ops)
  | [], _ => tracks_pure rfl
  | op :: rest, hparts => by
    rw [Operator.partsOf, List.forall_mem_append] at hparts
    have hop := op.compile_tracks hnum hlimit hparts.1
    have hrest := Operator.compileAll_tracks hnum hlimit rest hparts.2
    rw [Operator.compileAllWith, Operator.compileAllWith]
    refine tracks_bind hop fun check check' hcheck => ?_
    refine tracks_bind hrest fun checks checks' hchecks => tracks_pure ?_
    rw [Check.allUnnumbered, hcheck, hchecks]
  termination_by structural ops => ops

/-- Compiling an operator tracks its content. -/
theorem Operator.compile_tracks (hnum : Numbered known)
    (hlimit : settings.regexSizeLimit = limit) :
    (op : Operator Identity) → (∀ r ∈ op.parts, r ∈ known) →
    Tracks limit known (fun check check' => check.unnumbered = check')
      (op.compileWith (compiler settings)) (op.compileWith (Compiler.plain limit))
  | .regex pattern options, _ => by
    have hread : (compiler settings).regex pattern options =
        Compile.lift (readRegex limit pattern options) := by
      rw [← hlimit]
      rfl
    rw [Operator.compileWith, Operator.compileWith, hread]
    refine tracks_bind (tracks_lift _) fun regex regex' hregex => tracks_pure ?_
    rw [Check.unnumbered, hregex]
  | .not condition, hparts => by
    have hcondition := condition.compile_tracks hnum hlimit hparts
    rw [Operator.compileWith, Operator.compileWith]
    refine tracks_bind hcondition fun test test' htest => tracks_pure ?_
    rw [Check.unnumbered, htest]
  | .elemMatch query, hparts => by
    have hquery := query.compile_tracks hnum hlimit hparts
    rw [Operator.compileWith, Operator.compileWith]
    refine tracks_bind hquery fun m c hm => tracks_pure ?_
    rw [Check.unnumbered, hm]
  | .eq _, _ | .ne _, _ | .gt _, _ | .gte _, _ | .lt _, _ | .lte _, _ | .among _, _
  | .notAmong _, _ | .present _, _ | .allOf _, _ | .someOf _, _ | .size _, _
  | .unknown _, _ => tracks_pure rfl
  termination_by structural op => op

end

end Compilation

/-- **An engine with a sound cache compiles a query to its content**, and its
cache stays sound. -/
theorem Engine.compile_sound {engine : Engine}
    (hsound : engine.cache.Sound engine.config.regexSizeLimit known) (hnum : Numbered known)
    (alive : Nat → Bool) {q : Query Identity} (hparts : ∀ r ∈ q.parts, r ∈ known) :
    Agree (fun m c => m.unnumbered = c) (engine.compile alive q).1
        (q.content engine.config.regexSizeLimit) ∧
      (engine.compile alive q).2.cache.Sound engine.config.regexSizeLimit known := by
  have hstate : engine.state.Sound engine.config.regexSizeLimit known := by
    intro cache hcache
    unfold Engine.state at hcache
    split at hcache
    · cases hcache
      exact hsound
    · cases hcache
  have hlimit : (engine.settings alive).regexSizeLimit = engine.config.regexSizeLimit := rfl
  obtain ⟨hagree, hafter⟩ := q.compile_tracks hnum hlimit hparts engine.state hstate
  rw [Engine.compile_eq]
  refine ⟨hagree, ?_⟩
  -- a state without a cache leaves the engine the one it has
  show Cache.Sound _ _ (Option.getD _ engine.cache)
  rcases hcache : (outcome (q.compile (engine.settings alive)) engine.state).2.cache with - | cache
  · exact hsound
  · exact hafter cache hcache

end DocQuery
