import DocQuery.Proofs.KeyedLists
import DocQuery.Proofs.Layout
import DocQuery.Proofs.Log
/-!
# Histories of a session

A history is a list of events: steps of a session, and requests for the number
of cached matchers, in any order. `Session.run`, which asks for the number
after every step, is the special case `run_eq`. Besides what a history answers
there is its log (`Session.log`): every query that has been compiled in it,
as a root or within another query, with the matcher that was come by.

Invariants are not checked event by event. An event is made up of turns
(`Session.Turn`), each of which changes one thing, and `turns_handle` says
which. Between turns a query may be held by the step in progress only, as a
query is that a churn has just made. A whole history is then a sequence of
turns (`turns_after`), which keeps what every turn keeps (`Turns.keeps`).
-/


namespace DocQuery

/-- What can happen in a session. -/
inductive Event where
  | step (step : Step)
  /-- Asks for the number of cached matchers. -/
  | count

/-- What an event answers. -/
inductive Answer where
  | reply (reply : Reply)
  | count (n : Nat)

namespace Session

/-- The session after an event, with its answer. -/
def handle (s : Session) : Event → Answer × Session
  | .step step => (.reply (s.step step).1, (s.step step).2)
  | .count => (.count s.cachedMatchers.1, s.cachedMatchers.2)

/-- The session after a history. -/
def after (s : Session) : List Event → Session
  | [] => s
  | event :: rest => (s.handle event).2.after rest

/-- What a history answers. -/
def answers (s : Session) : List Event → List Answer
  | [] => []
  | event :: rest => (s.handle event).1 :: (s.handle event).2.answers rest

/-- **Running steps is a history** in which the number of cached matchers is
asked for after each. -/
theorem run_eq (s : Session) (steps : List Step) :
    s.answers (steps.flatMap fun step => [.step step, .count]) =
        ((s.run steps).1.flatMap fun r => [.reply r.1, .count r.2]) ∧
      s.after (steps.flatMap fun step => [.step step, .count]) = (s.run steps).2 := by
  induction steps generalizing s with
  | nil => exact ⟨rfl, rfl⟩
  | cons step rest ih =>
    obtain ⟨hanswers, hafter⟩ := ih (s.step step).2.cachedMatchers.2
    simp only [List.flatMap_cons, List.cons_append, List.nil_append]
    refine ⟨?_, hafter⟩
    simp only [answers, handle, run, List.flatMap_cons, List.cons_append, List.nil_append]
    rw [hanswers]

/-! ## What is served -/

/-- What a round of a churn serves. -/
def servedOnce (s : Session) (stem : String) (i : Nat) : List Served :=
  match s.make (churnDraft stem i) with
  | none => []
  | some (query, s) => s.engine.served (s.alive query.labels) query

/-- What the rounds of a churn serve. -/
def servedFrom (s : Session) (stem : String) (keep : Nat) : (rounds i : Nat) → List Served
  | 0, _ => []
  | rounds + 1, i => s.servedOnce stem i ++
    match s.churnOnce stem keep i with
    | (.error _, _) => []
    | (.ok _, s) => servedFrom s stem keep rounds (i + 1)

/-- What compiling the query under a name serves. -/
def servedUnder (s : Session) (name : String) : List Served :=
  match Entries.get? name s.queries with
  | none => []
  | some query => s.engine.served (s.alive []) query

/-- What an event serves: every query that is compiled in it, with its
matcher. -/
def served (s : Session) : Event → List Served
  | .step (.compile _ query) => s.servedUnder query
  | .step (.filter query _) => s.servedUnder query
  | .step (.find query _ _) => s.servedUnder query
  | .step (.churn stem count keep) => s.servedFrom stem keep count 0
  | _ => []

/-- What has been served in a history. -/
def log (s : Session) : List Event → List Served
  | [] => []
  | event :: rest => s.served event ++ (s.handle event).2.log rest

/-! ## Turns -/

/-- The queries that are alive, parts included, when some are held by a step
in progress. -/
def world (s : Session) (inUse : List (Query Identity)) : List (Query Identity) :=
  Query.partsOf (inUse ++ s.queries.map (·.2))

/-- The queries that are alive when no step is in progress are those whose
identities are. -/
theorem map_label_world (s : Session) : (s.world []).map Query.label = s.living :=
  Query.map_label_partsOf _

/-- **Being alive is being a part of what is held.** -/
theorem alive_iff {s : Session} {inUse : List (Query Identity)} {n : Nat} :
    s.alive (Query.labelsOf inUse) n = true ↔ ∃ q ∈ s.world inUse, q.label.serial = n := by
  have hlabels : Query.labelsOf inUse ++ s.living = (s.world inUse).map Query.label := by
    rw [world, Query.map_label_partsOf, living]
    induction inUse with
    | nil => rfl
    | cons q rest ih => rw [Query.labelsOf, List.append_assoc, ih]; rfl
  rw [alive, hlabels]
  simp [List.any_map]

/-- One change of a session, from some queries that the step in progress
holds to others, and what it serves. -/
inductive Turn : Session → List (Query Identity) → List Served →
    Session → List (Query Identity) → Prop
  | make {s s' : Session} {draft : Query Origin} {q : Query Identity} :
      s.make draft = some (q, s') → Turn s [] [] s' [q]
  | hold {s : Session} {q : Query Identity} (name : String) :
      Turn s [q] [] (s.hold name q) []
  | release {s : Session} {inUse : List (Query Identity)} : Turn s inUse [] s []
  | dropQuery {s : Session} (name : String) :
      Turn s [] [] { s with queries := Entries.erase name s.queries } []
  | setMatchers {s : Session} {inUse : List (Query Identity)}
      (matchers : List (String × Matcher)) : Turn s inUse [] { s with matchers } inUse
  | compile {s : Session} {inUse : List (Query Identity)} {q : Query Identity} :
      q ∈ s.world inUse →
      Turn s inUse (s.engine.served (s.alive (Query.labelsOf inUse)) q)
        { s with engine := (s.engine.compile (s.alive (Query.labelsOf inUse)) q).2 } inUse
  | count {s : Session} : Turn s [] [] s.cachedMatchers.2 []

/-- Turns one after another. -/
inductive Turns : Session → List (Query Identity) → List Served →
    Session → List (Query Identity) → Prop
  | refl {s : Session} {inUse : List (Query Identity)} : Turns s inUse [] s inUse
  | cons {s s' s'' : Session} {inUse inUse' inUse'' : List (Query Identity)}
      {log log' : List Served} : Turn s inUse log s' inUse' → Turns s' inUse' log' s'' inUse'' →
      Turns s inUse (log ++ log') s'' inUse''

namespace Turns

variable {s s' s'' : Session} {inUse inUse' inUse'' : List (Query Identity)}
  {log log' : List Served}

/-- A single turn. -/
theorem single (h : Turn s inUse log s' inUse') : Turns s inUse log s' inUse' := by
  have := Turns.cons h .refl
  rwa [List.append_nil] at this

/-- Turns follow turns. -/
theorem append (h : Turns s inUse log s' inUse') (h' : Turns s' inUse' log' s'' inUse'') :
    Turns s inUse (log ++ log') s'' inUse'' := by
  induction h with
  | refl => exact h'
  | cons h _ ih =>
    rw [List.append_assoc]
    exact .cons h (ih h')

/-- What every turn keeps, turns keep. -/
theorem keeps_state {I : Session → List (Query Identity) → Prop}
    (hturn : ∀ {s s' inUse inUse' served}, I s inUse → Turn s inUse served s' inUse' →
      I s' inUse')
    (h : Turns s inUse log s' inUse') (hI : I s inUse) : I s' inUse' := by
  induction h with
  | refl => exact hI
  | cons h _ ih => exact ih (hturn hI h)

/-- **And the invariant may speak of what has been served so far.** -/
theorem keeps {I : Session → List (Query Identity) → List Served → Prop}
    (hturn : ∀ {s s' inUse inUse' log served}, I s inUse log → Turn s inUse served s' inUse' →
      I s' inUse' (log ++ served))
    (h : Turns s inUse log' s' inUse') (hI : I s inUse log) : I s' inUse' (log ++ log') := by
  induction h generalizing log with
  | refl => rwa [List.append_nil]
  | cons h _ ih =>
    rw [← List.append_assoc]
    exact ih (hturn hI h)

end Turns

/-! ## The turns of an event -/

/-- The parts of the query under a name are alive, -/
theorem mem_world_of_part {s : Session} {name : String} {q r : Query Identity}
    (h : Entries.get? name s.queries = some q) (hr : r ∈ q.parts) : r ∈ s.world [] :=
  mem_partsOf.2 ⟨q, List.mem_map.2 ⟨(name, q), Entries.mem_of_get? h, rfl⟩, hr⟩

/-- and so is the query itself. -/
theorem mem_world_of_get? {s : Session} {name : String} {q : Query Identity}
    (h : Entries.get? name s.queries = some q) : q ∈ s.world [] :=
  mem_world_of_part h (self_mem_parts q)

/-- A round of a churn makes a query, compiles it and holds it or lets it
go. -/
theorem turns_churnOnce (s : Session) (stem : String) (keep i : Nat) :
    Turns s [] (s.servedOnce stem i) (s.churnOnce stem keep i).2 [] := by
  unfold servedOnce churnOnce
  rcases hmake : s.make (churnDraft stem i) with - | ⟨q, s₁⟩
  · exact .refl
  · -- until the round is over it is the round that keeps the query alive
    have hself : q ∈ s₁.world [q] := mem_partsOf.2 ⟨q, List.mem_cons_self, self_mem_parts q⟩
    have hcompile : Turns s₁ [q] (s₁.engine.served (s₁.alive q.labels) q)
        { s₁ with engine := (s₁.engine.compile (s₁.alive q.labels) q).2 } [q] := by
      have hlabels : q.labels = Query.labelsOf [q] := (List.append_nil _).symm
      rw [hlabels]
      exact .single (.compile hself)
    have hmade := (Turns.single (.make hmake)).append hcompile
    dsimp only
    rcases hresult : s₁.engine.compile (s₁.alive q.labels) q with ⟨e | m, engine⟩
    · rw [hresult] at hmade
      simpa only [List.nil_append, List.append_nil] using hmade.append (.single .release)
    · rw [hresult] at hmade
      dsimp only
      split
      · simpa only [List.nil_append, List.append_nil] using hmade.append (.single (.hold _))
      · simpa only [List.nil_append, List.append_nil] using hmade.append (.single .release)

/-- And so do the rounds, up to the first that fails. -/
theorem turns_churnFrom (s : Session) (stem : String) (keep rounds i : Nat) :
    Turns s [] (s.servedFrom stem keep rounds i) (s.churnFrom stem keep rounds i).2 [] := by
  induction rounds generalizing s i with
  | zero => exact .refl
  | succ rounds ih =>
    have honce := turns_churnOnce s stem keep i
    unfold servedFrom churnFrom
    rcases hround : s.churnOnce stem keep i with ⟨e | u, s₁⟩
    · rw [hround] at honce
      simpa only [List.append_nil] using honce
    · rw [hround] at honce
      exact honce.append (ih s₁ (i + 1))

/-- Compiling the query under a name is a turn. -/
theorem turns_compile {s : Session} {name : String} {q : Query Identity}
    (h : Entries.get? name s.queries = some q) :
    Turns s [] (s.servedUnder name)
      { s with engine := (s.engine.compile (s.alive []) q).2 } [] := by
  unfold servedUnder
  rw [h]
  exact .single (.compile (mem_world_of_get? h))

/-- **Every event is made up of turns**, and serves what they serve. -/
theorem turns_handle (s : Session) (event : Event) :
    Turns s [] (s.served event) (s.handle event).2 [] := by
  cases event with
  | count => exact .single .count
  | step step =>
    cases step with
    | store name draft =>
      simp only [served, handle, step]
      rcases hmake : s.make draft with - | ⟨q, s₁⟩
      · exact .refl
      · exact (Turns.single (.make hmake)).append (.single (.hold name))
    | dropQuery name => exact .single (.dropQuery name)
    | dropMatcher name => exact .single (.setMatchers _)
    | compile name query =>
      simp only [served, handle, step]
      rcases hget : Entries.get? query s.queries with - | q
      · unfold servedUnder
        rw [hget]
        exact .refl
      · have hcompile := turns_compile hget
        dsimp only
        rcases hresult : s.engine.compile (s.alive []) q with ⟨e | m, engine⟩
        · rwa [hresult] at hcompile
        · rw [hresult] at hcompile
          simpa only [List.append_nil] using hcompile.append (.single (.setMatchers _))
    | same a b =>
      simp only [served, handle, step]
      split <;> exact .refl
    | ask name v =>
      simp only [served, handle, step]
      split <;> exact .refl
    | filter name documents =>
      simp only [served, handle, step]
      rcases hget : Entries.get? name s.queries with - | q
      · unfold servedUnder
        rw [hget]
        exact .refl
      · dsimp only
        rw [Engine.filter_eq]
        exact turns_compile hget
    | find name documents options =>
      simp only [served, handle, step]
      rcases hget : Entries.get? name s.queries with - | q
      · unfold servedUnder
        rw [hget]
        exact .refl
      · dsimp only
        rw [Engine.find_eq]
        exact turns_compile hget
    | churn stem count keep => exact turns_churnFrom s stem keep count 0

/-- **A history is made up of turns**, and its log is what they serve. -/
theorem turns_after (s : Session) (events : List Event) :
    Turns s [] (s.log events) (s.after events) [] := by
  induction events generalizing s with
  | nil => exact .refl
  | cons event rest ih => exact (turns_handle s event).append (ih (s.handle event).2)

end Session

end DocQuery
