import DocQuery.Proofs.History
import DocQuery.Proofs.Shape
import DocQuery.Proofs.Tracking
/-!
# Compiling in a session

What every turn of a session keeps: the living queries are laid out among
the known ones (`LaidOut`), and the cache is sound for the known ones
(`Sound`). A query is known once it has been made, and stays known when it is
gone, since its entry may still be in the cache.

With this, compiling a living query gives its content after any history
(`compile_agrees`), and a matcher means what its query means
(`compiled_iff_holds`).
-/


namespace DocQuery

namespace Session

variable {s s' : Session} {inUse inUse' known : List (Query Identity)}

/-! ## Layout -/

/-- The living queries are among the known ones, and both are well laid
out. -/
structure LaidOut (known : List (Query Identity)) (s : Session) (inUse : List (Query Identity)) :
    Prop where
  subset : ∀ q ∈ s.world inUse, q ∈ known
  layout : Layout known (s.world inUse)
    ⟨s.nextSerial, (s.world inUse).map fun q => q.label.address⟩

/-- A new session holds nothing. -/
theorem laidOut_new (placement : Placement) (sorting : Sorting) (config : Config) :
    LaidOut [] (new placement sorting config) [] :=
  ⟨fun _ hq => absurd hq List.not_mem_nil, .nil _⟩

/-- A session in which fewer queries are alive is laid out too. -/
theorem LaidOut.shrink (h : LaidOut known s inUse)
    (hworld : ∀ q ∈ s'.world inUse', q ∈ s.world inUse) (hserial : s'.nextSerial = s.nextSerial) :
    LaidOut known s' inUse' := by
  refine ⟨fun q hq => h.subset q (hworld q hq), ?_⟩
  have hlayout : Layout known (s'.world inUse') _ := h.layout.mono (fun q hq => hq) hworld
  rw [hserial]
  exact hlayout.vacate fun q hq => List.mem_map_of_mem hq

/-- Making a query changes the next serial number and nothing else. -/
theorem make_eq_some {draft : Query Origin} {q : Query Identity}
    (h : s.make draft = some (q, s')) :
    ∃ a, (draft.make s.makeSettings).run s.allocator = some (q, a) ∧
      s' = { s with nextSerial := a.nextSerial } := by
  obtain ⟨⟨r, a⟩, hr, h⟩ := Option.map_eq_some_iff.1 h
  cases h
  exact ⟨a, hr, rfl⟩

/-- Making a query adds its parts to the known and to the living ones. -/
theorem LaidOut.make (h : LaidOut known s []) {draft : Query Origin} {q : Query Identity}
    (hmake : s.make draft = some (q, s')) : LaidOut (q.parts ++ known) s' [q] := by
  obtain ⟨a, hrun, rfl⟩ := make_eq_some hmake
  -- a draft refers to nothing but what the session holds
  have hheld : ∀ name r, s.makeSettings.held name = some r → ∀ t ∈ r.parts,
      t ∈ known ∧ t ∈ s.world [] := by
    intro name r hget t ht
    have hworld : t ∈ s.world [] := mem_world_of_part hget ht
    exact ⟨h.subset t hworld, hworld⟩
  have hlayout : Layout known (s.world []) s.allocator := by
    rw [allocator, ← map_label_world, List.map_map]
    exact h.layout
  have hmade := (draft.made hrun).layout hheld hlayout
  refine ⟨fun r hr => ?_, hmade.vacate fun r hr => List.mem_map_of_mem hr⟩
  rcases List.mem_append.1 hr with hr | hr
  · exact List.mem_append_left _ hr
  · exact List.mem_append_right _ (h.subset r hr)

/-- Holding a query under a name brings nothing to life that is not in use. -/
theorem mem_world_of_hold {name : String} {q r : Query Identity}
    (h : r ∈ (s.hold name q).world []) : r ∈ s.world [q] := by
  obtain ⟨t, ht, hr⟩ := mem_partsOf.1 h
  obtain ⟨x, hx, rfl⟩ := List.mem_map.1 ht
  refine mem_partsOf.2 ⟨x.2, ?_, hr⟩
  rcases Entries.mem_of_mem_insert hx with rfl | hx
  · exact List.mem_cons_self
  · exact List.mem_cons_of_mem _ (List.mem_map_of_mem hx)

/-- And dropping a name brings nothing to life. -/
theorem mem_world_of_erase {name : String} {r : Query Identity}
    (h : r ∈ ({ s with queries := Entries.erase name s.queries } : Session).world []) :
    r ∈ s.world [] := by
  obtain ⟨t, ht, hr⟩ := mem_partsOf.1 h
  obtain ⟨x, hx, rfl⟩ := List.mem_map.1 ht
  exact mem_partsOf.2 ⟨x.2, List.mem_map_of_mem (Entries.mem_of_mem_erase hx), hr⟩

/-- What no step holds any longer is alive only as far as names hold it. -/
theorem mem_world_of_nil {r : Query Identity} (h : r ∈ s.world []) : r ∈ s.world inUse := by
  obtain ⟨t, ht, hr⟩ := mem_partsOf.1 h
  exact mem_partsOf.2 ⟨t, List.mem_append_right _ ht, hr⟩

/-- **Every turn keeps the layout**, and the known queries stay known. -/
theorem LaidOut.turn {served : List Served} (h : LaidOut known s inUse)
    (hturn : Turn s inUse served s' inUse') :
    ∃ known', (∀ q ∈ known, q ∈ known') ∧ LaidOut known' s' inUse' := by
  have hkeep : ∀ q ∈ known, q ∈ known := fun _ hq => hq
  cases hturn with
  | make hmake => exact ⟨_, fun r hr => List.mem_append_right _ hr, h.make hmake⟩
  | hold name => exact ⟨known, hkeep, h.shrink (fun _ => mem_world_of_hold) rfl⟩
  | release => exact ⟨known, hkeep, h.shrink (fun _ => mem_world_of_nil) rfl⟩
  | dropQuery name => exact ⟨known, hkeep, h.shrink (fun _ => mem_world_of_erase) rfl⟩
  | setMatchers matchers => exact ⟨known, hkeep, h.shrink (fun _ hq => hq) rfl⟩
  | compile hq => exact ⟨known, hkeep, h.shrink (fun _ hq => hq) rfl⟩
  | count => exact ⟨known, hkeep, h.shrink (fun _ hq => hq) rfl⟩

/-- The parts of a living query are known. -/
theorem LaidOut.parts_subset (h : LaidOut known s inUse) {q : Query Identity}
    (hq : q ∈ s.world inUse) : ∀ r ∈ q.parts, r ∈ known :=
  fun r hr => h.subset r (Query.partsOf_trans hr _ hq)

/-! ## Soundness -/

/-- The session has a way of sorting and a configuration, is laid out among
some known queries, and its cache is sound for them. -/
structure Sound (sorting : Sorting) (config : Config) (s : Session)
    (inUse : List (Query Identity)) : Prop where
  sorting_eq : s.engine.sorting = sorting
  config_eq : s.engine.config = config
  exists_known : ∃ known, LaidOut known s inUse ∧
    s.engine.cache.Sound config.regexSizeLimit known

variable {sorting : Sorting} {config : Config}

/-- **Every turn keeps soundness.** -/
theorem Sound.turn {served : List Served} (h : Sound sorting config s inUse)
    (hturn : Turn s inUse served s' inUse') : Sound sorting config s' inUse' := by
  obtain ⟨rfl, rfl, known, hlaid, hsound⟩ := h
  obtain ⟨known', hsub, hlaid'⟩ := hlaid.turn hturn
  have hsame := hsound.mono (fun _ hx => hx) hsub
  cases hturn with
  | make hmake =>
    obtain ⟨a, -, rfl⟩ := make_eq_some hmake
    exact ⟨rfl, rfl, known', hlaid', hsame⟩
  | hold _ | release | dropQuery _ | setMatchers _ => exact ⟨rfl, rfl, known', hlaid', hsame⟩
  | compile hq =>
    have hcompile := Engine.compile_sound hsound hlaid.layout.numbered
      (s.alive (Query.labelsOf inUse)) (hlaid.parts_subset hq)
    exact ⟨rfl, rfl, known', hlaid', hcompile.2.mono (fun _ hx => hx) hsub⟩
  | count =>
    exact ⟨rfl, rfl, known', hlaid', hsound.mono (fun _ hx => (Cache.mem_purge.1 hx).1) hsub⟩

/-- And so do turns one after another. -/
theorem Sound.turns {served : List Served} (h : Sound sorting config s inUse)
    (hturns : Turns s inUse served s' inUse') : Sound sorting config s' inUse' :=
  hturns.keeps_state (fun h hturn => h.turn hturn) h

/-- A new session is sound. -/
theorem sound_new (placement : Placement) (sorting : Sorting) (config : Config) :
    Sound sorting config (new placement sorting config) [] :=
  ⟨rfl, rfl, [], laidOut_new placement sorting config, fun _ hx => absurd hx List.not_mem_nil⟩

/-- **Every history keeps soundness**, from a new session on. -/
theorem sound_after (placement : Placement) (sorting : Sorting) (config : Config)
    (events : List Event) :
    Sound sorting config ((new placement sorting config).after events) [] :=
  (sound_new placement sorting config).turns (turns_after _ events)

/-- **A living query compiles to its content.** -/
theorem Sound.compile_agrees (h : Sound sorting config s inUse) (alive : Nat → Bool)
    {q : Query Identity} (hq : q ∈ s.world inUse) :
    Agree (fun m c => m.unnumbered = c) (s.engine.compile alive q).1
      (q.content config.regexSizeLimit) := by
  obtain ⟨rfl, rfl, known, hlaid, hsound⟩ := h
  exact (Engine.compile_sound hsound hlaid.layout.numbered alive (hlaid.parts_subset hq)).1

/-! ## The meaning of compiled queries -/

/-- **Every query tree can be stored**: whatever the session holds, a name
then holds a query of that shape, which is alive. -/
theorem stores_every_shape {ι : Type} (s : Session) (name : String) (t : Query ι) :
    let s' := (s.handle (.step (.store name (t.mapLabel fun _ => .new)))).2
    ∃ q, Entries.get? name s'.queries = some q ∧ q ∈ s'.world [] ∧ q.shape = t.shape := by
  intro s'
  obtain ⟨q, a, hrun, hshape⟩ := Query.make_new s.makeSettings t s.allocator
  have hmake : s.make (t.mapLabel fun _ => .new) =
      some (q, { s with nextSerial := a.nextSerial }) := by
    rw [make, hrun]
    rfl
  have hget : Entries.get? name s'.queries = some q := by
    simp only [s', Session.handle, Session.step, hmake]
    exact Entries.get?_insert_self name q s.queries
  exact ⟨q, hget, mem_world_of_get? hget, hshape⟩

end Session

/-- **Compilation preserves meaning.** After any history of a session, the
matcher that a living query compiles to accepts exactly the roots at which
the query holds, however the queries share parts, whatever the cache has been
left with by queries that are alive or gone, and whichever are taken for
alive. There are living queries of every shape
(`Session.stores_every_shape`). -/
theorem compiled_iff_holds (placement : Placement) (sorting : Sorting) (config : Config)
    (events : List Event) (alive : Nat → Bool) (q : Query Identity) (m : Matcher) (root : Root)
    (hq : q ∈ ((Session.new placement sorting config).after events).world [])
    (hm : (((Session.new placement sorting config).after events).engine.compile alive q).1 =
      .ok m) :
    m.accepts root = true ↔ q.Holds config.regexSizeLimit root := by
  have hagree := (Session.sound_after placement sorting config events).compile_agrees alive hq
  rw [hm] at hagree
  rcases hcontent : q.content config.regexSizeLimit with e | c
  · rw [hcontent] at hagree
    cases hagree
  · rw [hcontent] at hagree
    cases hagree with
    | ok hmc => rw [← m.accepts_unnumbered root, hmc, q.accepts_content root hcontent]

/-- A query that holds another one twice, under a group and under a negated
element test, when the other has been compiled before. -/
theorem shared_parts_keep_meaning :
    let inner : Query Identity := .fields ⟨0, 1⟩ [("x", .operators [.gt (.int32 3)])]
    let outer : Query Identity := .logical ⟨2, 3⟩
      [inner, .fields ⟨1, 2⟩ [("y", .operators [.not (.operators [.elemMatch inner])])]] [] none
    let s := (Session.new .above .strict {}).after
      [.step (.store "a" (.fields .new [("x", .operators [.gt (.int32 3)])])),
        .step (.store "b" (.logical .new [.fields (.held "a") [],
          .fields .new [("y", .operators [.not (.operators
            [.elemMatch (.fields (.held "a") [])])])]] [] none)),
        .step (.compile "m" "a")]
    Entries.get? "b" s.queries = some outer ∧ ∃ m, (s.engine.compile (s.alive []) outer).1 = .ok m ∧
      ∀ root, m.accepts root = true ↔ outer.Holds 1048576 root := by
  intro inner outer s
  have hget : Entries.get? "b" s.queries = some outer := rfl
  obtain ⟨m, hm⟩ : ∃ m, (s.engine.compile (s.alive []) outer).1 = .ok m := ⟨_, rfl⟩
  refine ⟨hget, m, hm, fun root => ?_⟩
  exact compiled_iff_holds .above .strict {} _ _ outer m root (Session.mem_world_of_get? hget) hm

end DocQuery
