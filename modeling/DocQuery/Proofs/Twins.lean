import DocQuery.Proofs.Shape
import DocQuery.Proofs.Soundness
/-!
# Twin sessions

Two sessions are twins if their names hold the same queries but for labels,
and the same matchers but for serial numbers. Nothing is asked of their
engines, one of which may have a cache and the other none, nor of where and
in which order they have laid out their queries.

Twins whose engines are sound and configured alike, but for the cache, give
answers that agree at every event, and stay twins (`Twins.handle`). For a
matcher, to agree is to be shown alike and to accept the same roots. It
follows that a cache cannot be seen but by asking whether two matchers are
the same, or how many are cached (`cache_invisible`).
-/


namespace DocQuery

/-! ## Plans -/

/-- The plan with the serial numbers of its matchers set to zero. -/
def Plan.unnumbered : Plan → Plan
  | .scan => .scan
  | .filter matcher source => .filter matcher.unnumbered source.unnumbered
  | .sort paths source => .sort paths source.unnumbered
  | .limit count source => .limit count source.unnumbered
  | .project projector source => .project projector source.unnumbered

section Plans

variable {α : Type} {sorting : Sorting} {strings : StringOrdering} {document : α → Document}
  {input : List α}

/-- Numbers do not matter to the rows that a plan chooses. -/
theorem rows_unnumbered (plan : Plan) :
    plan.unnumbered.rows sorting strings document input =
      plan.rows sorting strings document input := by
  induction plan with
  | scan => rfl
  | filter matcher source ih =>
    have haccepts : matcher.unnumbered.acceptsDocument = matcher.acceptsDocument :=
      funext fun d => matcher.accepts_unnumbered (.document d)
    rw [Plan.unnumbered, Plan.rows, Plan.rows, ih, haccepts]
  | sort paths source ih => rw [Plan.unnumbered, Plan.rows, Plan.rows, ih]
  | limit count source ih => rw [Plan.unnumbered, Plan.rows, Plan.rows, ih]
  | project projector source ih => rw [Plan.unnumbered, Plan.rows, Plan.rows, ih]

/-- Nor to the values that it makes. -/
theorem values_unnumbered (plan : Plan) :
    plan.unnumbered.values sorting strings document input =
      plan.values sorting strings document input := by
  cases plan with
  | project projector source =>
    rw [Plan.unnumbered, Plan.values, Plan.values, rows_unnumbered]
  | scan => rfl
  | filter _ _ | sort _ _ | limit _ _ =>
    exact congrArg (Option.map fun rows => rows.map fun row => Value.document (document row))
      (rows_unnumbered _)

/-- Dropping the numbers of a plan is planning for a matcher without
numbers. -/
theorem ofMatcher_unnumbered (options : FindOptions) (m : Matcher) :
    Plan.ofMatcher options m.unnumbered = (Plan.ofMatcher options m).map Plan.unnumbered := by
  have hsort : Plan.withSort options.sort (.filter m.unnumbered .scan) =
      (Plan.withSort options.sort (.filter m .scan)).map Plan.unnumbered := by
    unfold Plan.withSort
    split
    · rfl
    · rcases options.sort.mapM SortPath.ofKey with e | paths <;> rfl
  unfold Plan.ofMatcher
  rw [hsort]
  rcases Plan.withSort options.sort (.filter m .scan) with e | plan
  · rfl
  · show Plan.withProjection _ (Plan.withLimit _ plan.unnumbered) =
      (Plan.withProjection _ (Plan.withLimit _ plan)).map Plan.unnumbered
    have hlimit : Plan.withLimit options.limit plan.unnumbered =
        (Plan.withLimit options.limit plan).unnumbered := by
      cases options.limit <;> rfl
    rw [hlimit]
    unfold Plan.withProjection
    cases options.projection with
    | none => rfl
    | some projection =>
      dsimp only
      rcases Projector.ofProjection projection with e | projector <;> rfl

end Plans

/-! ## Agreement -/

/-- Two replies agree: queries have the same shape, matchers are shown alike
and accept the same roots, whether two matchers are the same is left open, and
anything else is equal. -/
inductive Reply.Agrees : Reply → Reply → Prop
  | query {q q' : Query Identity} : q.shape = q'.shape → Reply.Agrees (.query q) (.query q')
  | matcher {m m' : Matcher} : m.summary = m'.summary →
      (∀ root, m.accepts root = m'.accepts root) → Reply.Agrees (.matcher m) (.matcher m')
  | same (b b' : Bool) : Reply.Agrees (.same b) (.same b')
  | refl (r : Reply) : Reply.Agrees r r

/-- Two answers agree if they are replies that do. The number of cached
matchers is left open. -/
inductive Answer.Agrees : Answer → Answer → Prop
  | reply {r r' : Reply} : r.Agrees r' → Answer.Agrees (.reply r) (.reply r')
  | count (n n' : Nat) : Answer.Agrees (.count n) (.count n')

/-- Two results that agree with a third agree with each other. -/
theorem Agree.join {α β γ : Type} {f : α → γ} {g : β → γ} {x : Except EngineError α}
    {y : Except EngineError β} {z : Except EngineError γ} (hx : Agree (fun a c => f a = c) x z)
    (hy : Agree (fun b c => g b = c) y z) : Agree (fun a b => f a = g b) x y := by
  cases hx with
  | ok ha =>
    cases hy with
    | ok hb => exact .ok (ha.trans hb.symm)
  | error =>
    cases hy
    exact .error

/-- Replies for results that are equal, errors included. -/
theorem replyOf_agrees {α : Type} {make : α → Reply} {x y : Except EngineError α} (h : x = y) :
    (Session.replyOf make x).Agrees (Session.replyOf make y) := h ▸ .refl _

/-- The configurations are the same but for the cache. -/
structure Config.SameButCache (config config' : Config) : Prop where
  stringOrdering : config.stringOrdering = config'.stringOrdering
  regexSizeLimit : config.regexSizeLimit = config'.regexSizeLimit

namespace Session

/-! ## Twins -/

/-- The names hold the same queries but for labels, and the same matchers but
for serial numbers. -/
structure Twins (s s' : Session) : Prop where
  queries : Entries.Alike (fun q q' => q.shape = q'.shape) s.queries s'.queries
  matchers : Entries.Alike (fun m m' => m.unnumbered = m'.unnumbered) s.matchers s'.matchers

variable {sorting : Sorting} {config config' : Config} {s s' : Session}
  {inUse inUse' : List (Query Identity)} {q q' : Query Identity}

/-- New sessions are twins. -/
theorem twins_new (placement placement' : Placement) (sorting : Sorting)
    (config config' : Config) :
    Twins (new placement sorting config) (new placement' sorting config') := ⟨.nil, .nil⟩

/-- **Twins make queries of the same shape**, or none. -/
theorem Twins.make (h : Twins s s') (draft : Query Origin) :
    Option.Rel (fun p p' => p.1.shape = p'.1.shape ∧ Twins p.2 p'.2) (s.make draft)
      (s'.make draft) := by
  have hheld : s.makeSettings.SameShapes s'.makeSettings := fun name => h.queries.get? name
  have hrel := draft.makes_shape hheld s.allocator s'.allocator
  unfold Session.make
  generalize (draft.make s.makeSettings).run s.allocator = made,
    (draft.make s'.makeSettings).run s'.allocator = made' at hrel
  cases hrel with
  | none => exact .none
  | some hshape => exact .some ⟨hshape, h.queries, h.matchers⟩

/-- Holding queries of the same shape leaves sessions twins. -/
theorem Twins.hold (h : Twins s s') (name : String) (hshape : q.shape = q'.shape) :
    Twins (s.hold name q) (s'.hold name q') := ⟨h.queries.insert hshape name, h.matchers⟩

/-- **Queries of the same shape compile alike** in sound sessions. -/
theorem compile_alike (hc : config.SameButCache config') (hs : Sound sorting config s inUse)
    (hs' : Sound sorting config' s' inUse') (hq : q ∈ s.world inUse) (hq' : q' ∈ s'.world inUse')
    (hshape : q.shape = q'.shape) (alive alive' : Nat → Bool) :
    Agree (fun m m' => m.unnumbered = m'.unnumbered) (s.engine.compile alive q).1
      (s'.engine.compile alive' q').1 := by
  -- both contents are that of the shape
  have hcontent : q'.content config'.regexSizeLimit = q.content config.regexSizeLimit := by
    rw [← hc.regexSizeLimit, ← content_mapLabel (fun _ => ()) q,
      ← content_mapLabel (fun _ => ()) q']
    exact congrArg (Query.content config.regexSizeLimit) hshape.symm
  have hagree := hs.compile_agrees alive hq
  have hagree' := hs'.compile_agrees alive' hq'
  rw [hcontent] at hagree'
  exact hagree.join hagree'

/-- Matchers that are alike filter rows alike. -/
theorem filter_alike {α : Type} {alive alive' : Nat → Bool} (document : α → Document)
    (input : List α)
    (h : Agree (fun m m' => m.unnumbered = m'.unnumbered) (s.engine.compile alive q).1
      (s'.engine.compile alive' q').1) :
    (s.engine.filter alive q document input).1 = (s'.engine.filter alive' q' document input).1 := by
  rw [Engine.filter_eq, Engine.filter_eq]
  generalize (s.engine.compile alive q).1 = x, (s'.engine.compile alive' q').1 = y at h
  cases h with
  | error => rfl
  | @ok m m' hm =>
    have haccepts : m.acceptsDocument = m'.acceptsDocument :=
      funext fun d => accepts_eq_of_unnumbered_eq hm (.document d)
    rw [Except.map, Except.map, haccepts]

/-- And matchers that are alike find alike, if rows are sorted and strings are
ordered alike. -/
theorem find_alike {α : Type} {alive alive' : Nat → Bool} (options : FindOptions)
    (document : α → Document) (input : List α)
    (hsorting : s.engine.sorting = s'.engine.sorting)
    (hstrings : s.engine.config.stringOrdering = s'.engine.config.stringOrdering)
    (h : Agree (fun m m' => m.unnumbered = m'.unnumbered) (s.engine.compile alive q).1
      (s'.engine.compile alive' q').1) :
    (s.engine.find alive q options document input).1 =
      (s'.engine.find alive' q' options document input).1 := by
  rw [Engine.find_eq, Engine.find_eq, hsorting, hstrings]
  generalize (s.engine.compile alive q).1 = x, (s'.engine.compile alive' q').1 = y at h
  cases h with
  | error => rfl
  | @ok m m' hm =>
    have hvalues (m : Matcher) : (Plan.ofMatcher options m).map (fun plan =>
          plan.values s'.engine.sorting s'.engine.config.stringOrdering document input) =
        (Plan.ofMatcher options m.unnumbered).map fun plan =>
          plan.values s'.engine.sorting s'.engine.config.stringOrdering document input := by
      rw [ofMatcher_unnumbered]
      rcases Plan.ofMatcher options m with e | plan
      · rfl
      · exact congrArg Except.ok (values_unnumbered plan).symm
    show (Plan.ofMatcher options m).map _ = (Plan.ofMatcher options m').map _
    rw [hvalues m, hvalues m', hm]

/-! ## Churns -/

/-- A round of a churn fails in twins with one error, or in neither. -/
theorem Twins.churnOnce (hc : config.SameButCache config') (h : Twins s s')
    (hs : Sound sorting config s []) (hs' : Sound sorting config' s' []) (stem : String)
    (keep i : Nat) :
    (s.churnOnce stem keep i).1 = (s'.churnOnce stem keep i).1 ∧
      Twins (s.churnOnce stem keep i).2 (s'.churnOnce stem keep i).2 := by
  have hmake := h.make (churnDraft stem i)
  unfold Session.churnOnce
  rcases hx : s.make (churnDraft stem i) with - | ⟨q, s₁⟩ <;>
    rcases hy : s'.make (churnDraft stem i) with - | ⟨q', s₁'⟩ <;> rw [hx, hy] at hmake
  · exact ⟨rfl, h⟩
  · cases hmake
  · cases hmake
  · obtain ⟨hshape, htwins⟩ : q.shape = q'.shape ∧ Twins s₁ s₁' := by
      cases hmake with
      | some hrel => exact hrel
    have hself : ∀ (s : Session) (q : Query Identity), q ∈ s.world [q] := fun s q =>
      mem_partsOf.2 ⟨q, List.mem_cons_self, self_mem_parts q⟩
    have halike := compile_alike hc (hs.turn (.make hx)) (hs'.turn (.make hy)) (hself s₁ q)
      (hself s₁' q') hshape (s₁.alive q.labels) (s₁'.alive q'.labels)
    dsimp only
    generalize s₁.engine.compile (s₁.alive q.labels) q = p,
      s₁'.engine.compile (s₁'.alive q'.labels) q' = p' at halike
    rcases p with ⟨result, engine⟩
    rcases p' with ⟨result', engine'⟩
    cases halike with
    | error => exact ⟨rfl, htwins.queries, htwins.matchers⟩
    | ok _ =>
      dsimp only
      refine ⟨rfl, ?_⟩
      split
      · exact ⟨htwins.queries.insert hshape _, htwins.matchers⟩
      · exact ⟨htwins.queries, htwins.matchers⟩

/-- So do the rounds of a churn. -/
theorem Twins.churnFrom (hc : config.SameButCache config') (h : Twins s s')
    (hs : Sound sorting config s []) (hs' : Sound sorting config' s' []) (stem : String)
    (keep rounds i : Nat) :
    (s.churnFrom stem keep rounds i).1 = (s'.churnFrom stem keep rounds i).1 ∧
      Twins (s.churnFrom stem keep rounds i).2 (s'.churnFrom stem keep rounds i).2 := by
  induction rounds generalizing s s' i with
  | zero => exact ⟨rfl, h⟩
  | succ rounds ih =>
    obtain ⟨hresult, htwins⟩ := h.churnOnce hc hs hs' stem keep i
    have hs₁ := hs.turns (turns_churnOnce s stem keep i)
    have hs₁' := hs'.turns (turns_churnOnce s' stem keep i)
    unfold Session.churnFrom
    rcases hx : s.churnOnce stem keep i with ⟨result, s₁⟩
    rcases hy : s'.churnOnce stem keep i with ⟨result', s₁'⟩
    rw [hx, hy] at hresult htwins
    rw [hx] at hs₁
    rw [hy] at hs₁'
    obtain rfl : result = result' := hresult
    cases result with
    | error e => exact ⟨rfl, htwins⟩
    | ok u => exact ih htwins hs₁ hs₁' (i + 1)

/-! ## Steps -/

/-- Steps go alike if their replies agree, and if they leave twins. -/
structure GoAlike (p p' : Reply × Session) : Prop where
  replies : p.1.Agrees p'.1
  twins : Twins p.2 p'.2

namespace Twins

/-- Steps that change nothing go alike if they have the same reply. -/
theorem unchanged (h : Twins s s') (r : Reply) : GoAlike (r, s) (r, s') := ⟨.refl r, h⟩

theorem store (h : Twins s s') (name : String) (draft : Query Origin) :
    GoAlike (s.step (.store name draft)) (s'.step (.store name draft)) := by
  have hmake := h.make draft
  simp only [Session.step]
  generalize s.make draft = made, s'.make draft = made' at hmake
  cases hmake with
  | none => exact h.unchanged _
  | some hrel => exact ⟨.query hrel.1, hrel.2.hold name hrel.1⟩

theorem dropQuery (h : Twins s s') (name : String) :
    GoAlike (s.step (.dropQuery name)) (s'.step (.dropQuery name)) := by
  simp only [Session.step, h.queries.hasKey name]
  exact ⟨.refl _, h.queries.erase name, h.matchers⟩

theorem dropMatcher (h : Twins s s') (name : String) :
    GoAlike (s.step (.dropMatcher name)) (s'.step (.dropMatcher name)) := by
  simp only [Session.step, h.matchers.hasKey name]
  exact ⟨.refl _, h.queries, h.matchers.erase name⟩

/-- Whether two matchers are the same is left open, but not whether there are
two. -/
theorem same (h : Twins s s') (a b : String) :
    GoAlike (s.step (.same a b)) (s'.step (.same a b)) := by
  simp only [Session.step]
  rcases h.matchers.get?_cases a with ⟨hnone, hnone'⟩ | ⟨m, m', hget, hget', -⟩
  · rw [hnone, hnone']
    exact h.unchanged _
  rw [hget, hget']
  rcases h.matchers.get?_cases b with ⟨hnone, hnone'⟩ | ⟨n, n', hget, hget', -⟩
  · rw [hnone, hnone']
    exact h.unchanged _
  rw [hget, hget']
  exact ⟨.same _ _, h⟩

theorem ask (h : Twins s s') (name : String) (v : Value) :
    GoAlike (s.step (.ask name v)) (s'.step (.ask name v)) := by
  simp only [Session.step]
  rcases h.matchers.get?_cases name with ⟨hnone, hnone'⟩ | ⟨m, m', hget, hget', hm⟩
  · rw [hnone, hnone']
    exact h.unchanged _
  have hdocument : m.acceptsDocument = m'.acceptsDocument :=
    funext fun d => accepts_eq_of_unnumbered_eq hm (.document d)
  have hvalue : m.acceptsValue v = m'.acceptsValue v := accepts_eq_of_unnumbered_eq hm (.value v)
  rw [hget, hget']
  dsimp only
  rw [hdocument, hvalue]
  exact h.unchanged _

section Sound

variable (hc : config.SameButCache config') (h : Twins s s') (hs : Sound sorting config s [])
  (hs' : Sound sorting config' s' [])

include hc hs hs'

/-- Twins compile alike what they hold under a name. -/
theorem compile_held {name : String} (hget : Entries.get? name s.queries = some q)
    (hget' : Entries.get? name s'.queries = some q') (hshape : q.shape = q'.shape) :
    Agree (fun m m' => m.unnumbered = m'.unnumbered) (s.engine.compile (s.alive []) q).1
      (s'.engine.compile (s'.alive []) q').1 :=
  compile_alike hc hs hs' (mem_world_of_get? hget) (mem_world_of_get? hget') hshape _ _

include h

/-- A matcher is held in both twins or in neither, since the query compiles in
both or in neither. -/
theorem compile (name query : String) :
    GoAlike (s.step (.compile name query)) (s'.step (.compile name query)) := by
  simp only [Session.step]
  rcases h.queries.get?_cases query with ⟨hnone, hnone'⟩ | ⟨q, q', hget, hget', hshape⟩
  · rw [hnone, hnone']
    exact h.unchanged _
  · have hagree := compile_held hc hs hs' hget hget' hshape
    rw [hget, hget']
    dsimp only
    generalize s.engine.compile (s.alive []) q = p,
      s'.engine.compile (s'.alive []) q' = p' at hagree
    rcases p with ⟨result, engine⟩
    rcases p' with ⟨result', engine'⟩
    cases hagree with
    | error => exact ⟨.refl _, h.queries, h.matchers⟩
    | ok hm =>
      exact ⟨.matcher (summary_eq_of_unnumbered_eq hm) (accepts_eq_of_unnumbered_eq hm),
        h.queries, h.matchers.insert hm name⟩

theorem filter (name : String) (documents : List Document) :
    GoAlike (s.step (.filter name documents)) (s'.step (.filter name documents)) := by
  simp only [Session.step]
  rcases h.queries.get?_cases name with ⟨hnone, hnone'⟩ | ⟨q, q', hget, hget', hshape⟩
  · rw [hnone, hnone']
    exact h.unchanged _
  rw [hget, hget']
  refine ⟨replyOf_agrees ?_, h.queries, h.matchers⟩
  exact filter_alike (·.1) documents.zipIdx (compile_held hc hs hs' hget hget' hshape)

theorem find (name : String) (documents : List Document) (options : FindOptions) :
    GoAlike (s.step (.find name documents options)) (s'.step (.find name documents options)) := by
  have hstrings : s.engine.config.stringOrdering = s'.engine.config.stringOrdering := by
    rw [hs.config_eq, hs'.config_eq, hc.stringOrdering]
  simp only [Session.step]
  rcases h.queries.get?_cases name with ⟨hnone, hnone'⟩ | ⟨q, q', hget, hget', hshape⟩
  · rw [hnone, hnone']
    exact h.unchanged _
  rw [hget, hget']
  refine ⟨replyOf_agrees ?_, h.queries, h.matchers⟩
  exact find_alike options id documents (hs.sorting_eq.trans hs'.sorting_eq.symm) hstrings
    (compile_held hc hs hs' hget hget' hshape)

theorem churn (stem : String) (count keep : Nat) :
    GoAlike (s.step (.churn stem count keep)) (s'.step (.churn stem count keep)) := by
  obtain ⟨hresult, htwins⟩ := h.churnFrom hc hs hs' stem keep count 0
  exact ⟨replyOf_agrees hresult, htwins⟩

/-- **Steps of twins go alike.** -/
theorem step (taken : Step) : GoAlike (s.step taken) (s'.step taken) := by
  cases taken with
  | store name draft => exact h.store name draft
  | dropQuery name => exact h.dropQuery name
  | dropMatcher name => exact h.dropMatcher name
  | compile name query => exact h.compile hc hs hs' name query
  | same a b => exact h.same a b
  | ask name v => exact h.ask name v
  | filter name documents => exact h.filter hc hs hs' name documents
  | find name documents options => exact h.find hc hs hs' name documents options
  | churn stem count keep => exact h.churn hc hs hs' stem count keep

end Sound

end Twins

/-! ## Events -/

/-- **Twins answer alike at every event**, and stay twins. -/
theorem Twins.handle (hc : config.SameButCache config') (h : Twins s s')
    (hs : Sound sorting config s []) (hs' : Sound sorting config' s' []) (event : Event) :
    (s.handle event).1.Agrees (s'.handle event).1 ∧
      Twins (s.handle event).2 (s'.handle event).2 := by
  cases event with
  | count => exact ⟨.count _ _, h.queries, h.matchers⟩
  | step taken =>
    have halike := h.step hc hs hs' taken
    exact ⟨.reply halike.replies, halike.twins⟩

/-- **Twins answer alike in every history.** -/
theorem Twins.answers (hc : config.SameButCache config') (h : Twins s s')
    (hs : Sound sorting config s []) (hs' : Sound sorting config' s' []) (events : List Event) :
    List.Forall₂ Answer.Agrees (s.answers events) (s'.answers events) := by
  induction events generalizing s s' with
  | nil => exact .nil
  | cons event rest ih =>
    obtain ⟨hagrees, htwins⟩ := h.handle hc hs hs' event
    have hs₁ := hs.turns (turns_handle s event)
    have hs₁' := hs'.turns (turns_handle s' event)
    exact .cons hagrees (ih htwins hs₁ hs₁')

end Session

/-- **The cache is invisible** but for identity. In every history of steps
and counts, an engine with a cache and one without give answers that agree,
wherever each lays out its queries: the same verdicts, positions, values and
errors, and matchers that are shown alike and accept the same roots. -/
theorem cache_invisible (placement placement' : Placement) (sorting : Sorting) (config : Config)
    (events : List Event) :
    List.Forall₂ Answer.Agrees
      ((Session.new placement sorting { config with cacheMatchers := true }).answers events)
      ((Session.new placement' sorting { config with cacheMatchers := false }).answers
        events) := by
  have hc : Config.SameButCache { config with cacheMatchers := true }
      { config with cacheMatchers := false } := ⟨rfl, rfl⟩
  exact (Session.twins_new placement placement' sorting _ _).answers hc
    (Session.sound_new placement sorting _) (Session.sound_new placement' sorting _) events

end DocQuery
