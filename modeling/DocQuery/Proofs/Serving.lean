import DocQuery.Proofs.CacheLookup
import DocQuery.Proofs.Layout
import DocQuery.Proofs.Log
/-!
# What the cache remembers

`Serving` relates a cache to the log of everything that has been served with
it. Nothing is cached but what has been served, and everything that has been
served is still cached while its query lives. A query is served one matcher
and a matcher serves one query; and a matcher is served along with its parts,
each of which is the matcher of the part of the query that stands in the same
place.

Compilation keeps this (`Query.serves`), also where it fails part way: the
point is a query that is not found in the cache. Nothing has been served for
it then, since it is alive, and the entry that it displaces is one of a query
that is gone, since no other living query lies at its address
(`Serving.add`).
-/


namespace DocQuery

open Compile

/-- The entry that keeps a served matcher. -/
def Served.entry (e : Served) : Nat × CacheEntry :=
  (e.query.label.address, ⟨e.query.label.serial, e.matcher⟩)

/-- Queries and matchers, one by one, have been served together. -/
def ServedIn (log : List Served) (queries : List (Query Identity)) (matchers : List Matcher) :
    Prop := List.Forall₂ (fun q m => (⟨q, m⟩ : Served) ∈ log) queries matchers

/-- Nothing is served together with nothing. -/
theorem ServedIn.nil {log : List Served} : ServedIn log [] [] := List.Forall₂.nil

/-- What has been served stays served. -/
theorem ServedIn.mono {log log' : List Served} {queries : List (Query Identity)}
    {matchers : List Matcher} (h : ServedIn log queries matchers)
    (hsub : ∀ e ∈ log, e ∈ log') : ServedIn log' queries matchers :=
  List.Forall₂.imp (fun _ _ he => hsub _ he) h

/-- The cache and the serial number of the next matcher fit the log: of the
known queries, some of which live, each that is in the log has been served
its own matcher, and keeps it in the cache while it lives. -/
structure Serving (known living : List (Query Identity)) (cache : Cache) (next : Nat)
    (log : List Served) : Prop where
  keyed : cache.Keyed
  known_of_mem : ∀ e ∈ log, e.query ∈ known
  owned : ∀ x ∈ cache.entries, ∃ e ∈ log, x = e.entry
  present : ∀ e ∈ log, e.query ∈ living → e.entry ∈ cache.entries
  serial_lt : ∀ e ∈ log, e.matcher.serial < next
  unique : ∀ e ∈ log, ∀ e' ∈ log, e.query = e'.query → e.matcher = e'.matcher
  distinct : ∀ e ∈ log, ∀ e' ∈ log, e.matcher.serial = e'.matcher.serial → e.query = e'.query
  whole : ∀ e ∈ log, ServedIn log e.query.parts e.matcher.parts

/-- What compilation may rely on: known queries are told apart by serial
number and living ones by address, and what lives is known and is taken for
alive. -/
structure Grounds (alive : Nat → Bool) (known living : List (Query Identity)) : Prop where
  numbered : Numbered known
  placed : Placed living
  subset : ∀ q ∈ living, q ∈ known
  alive : ∀ q ∈ living, alive q.label.serial = true

namespace Serving

variable {known living : List (Query Identity)} {cache : Cache} {next : Nat}
  {log log' : List Served} {alive : Nat → Bool} {q : Query Identity} {m : Matcher}

/-- Before anything is served. -/
theorem nil (known living : List (Query Identity)) (next : Nat) :
    Serving known living {} next [] where
  keyed := Cache.keyed_empty
  known_of_mem _ he := absurd he List.not_mem_nil
  owned _ hx := absurd hx List.not_mem_nil
  present _ he := absurd he List.not_mem_nil
  serial_lt _ he := absurd he List.not_mem_nil
  unique _ he := absurd he List.not_mem_nil
  distinct _ he := absurd he List.not_mem_nil
  whole _ he := absurd he List.not_mem_nil

/-- Only the members of the log count. -/
theorem congr (h : Serving known living cache next log) (hmem : ∀ e, e ∈ log' ↔ e ∈ log) :
    Serving known living cache next log' where
  keyed := h.keyed
  known_of_mem e he := h.known_of_mem e ((hmem e).1 he)
  owned x hx := by
    obtain ⟨e, he, hxe⟩ := h.owned x hx
    exact ⟨e, (hmem e).2 he, hxe⟩
  present e he := h.present e ((hmem e).1 he)
  serial_lt e he := h.serial_lt e ((hmem e).1 he)
  unique e he e' he' := h.unique e ((hmem e).1 he) e' ((hmem e').1 he')
  distinct e he e' he' := h.distinct e ((hmem e).1 he) e' ((hmem e').1 he')
  whole e he := (h.whole e ((hmem e).1 he)).mono fun e he => (hmem e).2 he

/-- More may become known, and some may cease to live, as long as nothing
known comes to life. -/
theorem revise (h : Serving known living cache next log) {known' living' : List (Query Identity)}
    (hknown : ∀ q ∈ known, q ∈ known') (hliving : ∀ q ∈ living', q ∈ known → q ∈ living) :
    Serving known' living' cache next log :=
  { h with
    known_of_mem := fun e he => hknown _ (h.known_of_mem e he)
    present := fun e he hlives => h.present e he (hliving _ hlives (h.known_of_mem e he)) }

/-- **What is found has been served**, for this very query. -/
theorem mem_of_find? (h : Serving known living cache next log) {id : Identity}
    (hm : cache.find? id = some m) : ∃ e ∈ log, e.query.label = id ∧ e.matcher = m := by
  obtain ⟨e, he, hentry⟩ := h.owned _ (Cache.mem_of_find? hm)
  rcases id with ⟨serial, address⟩
  obtain ⟨rfl, rfl, rfl⟩ :
      address = e.query.label.address ∧ serial = e.query.label.serial ∧ m = e.matcher := by
    simpa [Served.entry] using hentry
  exact ⟨e, he, rfl, rfl⟩

/-- **A living query is found exactly if it has been served.** -/
theorem find?_iff (h : Serving known living cache next log) (hnum : Numbered known)
    (hq : q ∈ living) (hknown : q ∈ known) :
    cache.find? q.label = some m ↔ ⟨q, m⟩ ∈ log := by
  constructor
  · intro hm
    obtain ⟨e, he, hlabel, rfl⟩ := h.mem_of_find? hm
    obtain rfl : e.query = q :=
      hnum _ (h.known_of_mem e he) _ hknown (congrArg Identity.serial hlabel)
    exact he
  · intro hlog
    exact (Cache.find?_eq_some_iff h.keyed).2 (h.present _ hlog hq)

/-- A purge drops nothing that lives. -/
theorem purge (h : Serving known living cache next log)
    (halive : ∀ q ∈ living, alive q.label.serial = true) :
    Serving known living (cache.purge alive) next log :=
  { h with
    keyed := h.keyed.purge alive
    owned := fun x hx => h.owned x (Cache.mem_purge.1 hx).1
    present := fun e he hlives =>
      Cache.mem_purge.2 ⟨h.present e he hlives, halive _ hlives⟩ }

/-- Serving a matcher again changes nothing. -/
theorem again (h : Serving known living cache next log) (hlog : ⟨q, m⟩ ∈ log) :
    Serving known living cache next (log ++ [⟨q, m⟩]) := by
  refine h.congr fun e => ?_
  rw [List.mem_append, List.mem_singleton]
  constructor
  · rintro (he | rfl)
    · exact he
    · exact hlog
  · exact .inl

/-- Nor does a serial number that is not used. -/
theorem skip (h : Serving known living cache next log) :
    Serving known living cache (next + 1) log :=
  { h with serial_lt := fun e he => Nat.lt_succ_of_lt (h.serial_lt e he) }

/-- A living query that is not found has not been served. -/
theorem not_served_of_miss (h : Serving known living cache next log) (hnum : Numbered known)
    (hq : q ∈ living) (hknown : q ∈ known) (hmiss : cache.find? q.label = none) :
    ∀ e ∈ log, e.query ≠ q := by
  intro e he heq
  have hfound : cache.find? q.label = some e.matcher := (h.find?_iff hnum hq hknown).2 (heq ▸ he)
  rw [hmiss] at hfound
  cases hfound

/-- **A living query that has no matcher is given one**, and no living query
loses its own. -/
theorem add (h : Serving known living cache next log) (hg : Grounds alive known living)
    (hq : q ∈ living) (hmiss : cache.find? q.label = none) (hserial : m.serial = next)
    (hparts : ServedIn log q.parts.tail m.parts.tail) :
    Serving known living ((cache.makeRoom alive).put q.label.address ⟨q.label.serial, m⟩)
      (next + 1) (log ++ [⟨q, m⟩]) := by
  have hnew : ∀ e ∈ log, e.query ≠ q := h.not_served_of_miss hg.numbered hq (hg.subset q hq) hmiss
  -- the serial number of the matcher has not been used either
  have hnumber : ∀ e ∈ log, e.matcher.serial ≠ m.serial := fun e he =>
    hserial ▸ Nat.ne_of_lt (h.serial_lt e he)
  have hold : ∀ e ∈ log, e ∈ log ++ [⟨q, m⟩] := fun e he => List.mem_append_left _ he
  have hself : ⟨q, m⟩ ∈ log ++ [⟨q, m⟩] := List.mem_append_right _ (List.mem_singleton_self _)
  have hcases : ∀ {e : Served}, e ∈ log ++ [⟨q, m⟩] → e ∈ log ∨ e = ⟨q, m⟩ := by
    intro e he
    rwa [List.mem_append, List.mem_singleton] at he
  constructor
  case keyed => exact (h.keyed.makeRoom alive).put _ _
  case known_of_mem =>
    intro e he
    rcases hcases he with he | rfl
    · exact h.known_of_mem e he
    · exact hg.subset q hq
  case owned =>
    intro x hx
    rcases Cache.mem_put.1 hx with rfl | ⟨hx, -⟩
    · exact ⟨⟨q, m⟩, hself, rfl⟩
    · obtain ⟨e, he, hxe⟩ := h.owned x (Cache.mem_of_mem_makeRoom hx)
      exact ⟨e, hold e he, hxe⟩
  case present =>
    intro e he hlives
    rcases hcases he with he | rfl
    · -- no other living query lies at the address where the entry is put
      have haddress : e.query.label.address ≠ q.label.address := fun heq =>
        hnew e he (hg.placed _ hlives q hq heq)
      have hroom := Cache.mem_makeRoom (h.present e he hlives) (hg.alive _ hlives)
      exact Cache.mem_put.2 (.inr ⟨hroom, haddress⟩)
    · exact Cache.mem_put.2 (.inl rfl)
  case serial_lt =>
    intro e he
    rcases hcases he with he | rfl
    · exact Nat.lt_succ_of_lt (h.serial_lt e he)
    · exact hserial ▸ Nat.lt_succ_self _
  case unique =>
    intro e he e' he' heq
    rcases hcases he with he | rfl <;> rcases hcases he' with he' | rfl
    · exact h.unique e he e' he' heq
    · exact absurd heq (hnew e he)
    · exact absurd heq.symm (hnew e' he')
    · rfl
  case distinct =>
    intro e he e' he' heq
    rcases hcases he with he | rfl <;> rcases hcases he' with he' | rfl
    · exact h.distinct e he e' he' heq
    · exact absurd heq (hnumber e he)
    · exact absurd heq.symm (hnumber e' he')
    · rfl
  case whole =>
    intro e he
    rcases hcases he with he | rfl
    · exact (h.whole e he).mono hold
    · rw [Query.parts_eq_cons, Matcher.parts_eq_cons]
      exact .cons hself (hparts.mono hold)

end Serving

/-! ## Computations that serve -/

section Serves

variable {α β : Type} {known living : List (Query Identity)} {settings : CompileSettings}

/-- From any cache that fits its log the computation leaves one that fits the
longer log, and its value, if it has one, stands in a relation to that
log. -/
def Serves (known living : List (Query Identity)) (post : List Served → α → Prop)
    (x : Logged α) : Prop :=
  ∀ cache next log, Serving known living cache next log →
    ∃ result log' cache' next', x.outcome ⟨next, some cache⟩ =
        ((result, log'), ⟨next', some cache'⟩) ∧
      Serving known living cache' next' (log ++ log') ∧
      ∀ a, result = .ok a → post (log ++ log') a

/-- What a value comes with once it comes with it for good. -/
def Lasting (post : List Served → α → Prop) : Prop :=
  ∀ log log' a, post log a → post (log ++ log') a

theorem serves_pure {post : List Served → α → Prop} {a : α} (h : ∀ log, post log a) :
    Serves known living post (pure a) := by
  intro cache next log hs
  refine ⟨_, _, _, _, Logged.outcome_pure a _, ?_, ?_⟩
  · rwa [List.append_nil]
  · rintro b hb
    cases hb
    exact h _

/-- A result that is read serves nothing. -/
theorem serves_read (result : Except EngineError α) :
    Serves known living (fun _ _ => True) (Logged.ofCompile (Compile.lift result)) := by
  intro cache next log hs
  refine ⟨_, _, _, _, Logged.outcome_ofCompile _ _, ?_, fun _ _ => trivial⟩
  rwa [List.append_nil]

/-- **Serving goes through two steps.** The second may use what the first
has come with, which lasts. -/
theorem serves_bind {post : List Served → α → Prop} {post' : List Served → β → Prop}
    (hlast : Lasting post) {x : Logged α} {f : α → Logged β} (hx : Serves known living post x)
    (hf : ∀ a, Serves known living (fun log b => post log a → post' log b) (f a)) :
    Serves known living post' (x >>= f) := by
  intro cache next log hs
  obtain ⟨result, log₁, cache₁, next₁, hrun, hs₁, hpost⟩ := hx _ _ _ hs
  cases result with
  | error e =>
    refine ⟨.error e, log₁, cache₁, next₁, ?_, hs₁, fun a ha => by cases ha⟩
    rw [Logged.outcome_bind, hrun]
  | ok a =>
    obtain ⟨result, log₂, cache₂, next₂, hrun₂, hs₂, hpost₂⟩ := hf a _ _ _ hs₁
    refine ⟨result, log₁ ++ log₂, cache₂, next₂, ?_, ?_, fun b hb => ?_⟩
    · rw [Logged.outcome_bind, hrun]
      dsimp only
      rw [hrun₂]
    · rwa [← List.append_assoc]
    · rw [← List.append_assoc]
      exact hpost₂ b hb (hlast _ _ a (hpost a rfl))

/-- **A living query is served** together with its parts, if what builds its
matcher serves the parts. -/
theorem serves_query (hg : Grounds settings.alive known living) {q : Query Identity}
    (hq : q ∈ living) {build : Logged (Nat → Matcher)}
    (hbuild : Serves known living (fun log make => ∀ n, (make n).serial = n ∧
      ServedIn log q.parts.tail (make n).parts.tail) build) :
    Serves known living (fun log m => ServedIn log q.parts m.parts)
      ((logging settings).query q build) := by
  intro cache next log hs
  have hwhole : ∀ {cache next log m}, Serving known living cache next log → ⟨q, m⟩ ∈ log →
      ServedIn log q.parts m.parts := fun hs hlog => hs.whole _ hlog
  rw [Logged.outcome_query]
  cases hfind : (CompileState.mk next (some cache)).find? q.label with
  | some m =>
    have hlog : ⟨q, m⟩ ∈ log := (hs.find?_iff hg.numbered hq (hg.subset q hq)).1 hfind
    have hs' := hs.again hlog
    refine ⟨.ok m, [⟨q, m⟩], cache, next, rfl, hs', fun m' hm' => ?_⟩
    cases hm'
    exact hwhole hs' (List.mem_append_left _ hlog)
  | none =>
    obtain ⟨result, log₁, cache₁, next₁, hrun, hs₁, hpost⟩ := hbuild _ _ _ hs
    rw [hrun]
    cases result with
    | error e => exact ⟨.error e, log₁, cache₁, next₁, rfl, hs₁, fun a ha => by cases ha⟩
    | ok make =>
      -- the matcher is made with the number that is next by then
      obtain ⟨hserial, hparts⟩ := hpost make rfl next₁
      dsimp only [CompileState.register]
      -- what builds the matcher may itself have served the query
      cases hfind₁ : cache₁.find? q.label with
      | some m =>
        have hlog : ⟨q, m⟩ ∈ log ++ log₁ :=
          (hs₁.find?_iff hg.numbered hq (hg.subset q hq)).1 hfind₁
        have hs₂ := hs₁.skip.again hlog
        rw [Cache.insert_of_some hfind₁]
        refine ⟨_, _, cache₁, next₁ + 1, rfl, ?_, fun m' hm' => ?_⟩
        · rwa [← List.append_assoc]
        · cases hm'
          rw [← List.append_assoc]
          exact hwhole hs₂ (List.mem_append_left _ hlog)
      | none =>
        have hs₂ := hs₁.add hg hq hfind₁ hserial hparts
        rw [Cache.insert_of_none hfind₁]
        refine ⟨_, _, _, next₁ + 1, rfl, ?_, fun m' hm' => ?_⟩
        · rwa [← List.append_assoc]
        · cases hm'
          rw [← List.append_assoc]
          exact hwhole hs₂ (List.mem_append_right _ (List.mem_singleton_self _))

/-- That queries and matchers have been served together lasts. -/
theorem lasting_servedIn (queries : List (Query Identity)) (matchers : α → List Matcher) :
    Lasting fun log a => ServedIn log queries (matchers a) :=
  fun _ _ _ h => h.mono fun _ he => List.mem_append_left _ he

/-- Lists that have been served together may be put together. -/
theorem ServedIn.append {log : List Served} {queries queries' : List (Query Identity)}
    {matchers matchers' : List Matcher} (h : ServedIn log queries matchers)
    (h' : ServedIn log queries' matchers') :
    ServedIn log (queries ++ queries') (matchers ++ matchers') := List.rel_append h h'

mutual

/-- **Compiling a living query serves it** and its parts. -/
theorem Query.serves (hg : Grounds settings.alive known living) : (q : Query Identity) →
    (∀ r ∈ q.parts, r ∈ living) →
    Serves known living (fun log m => ServedIn log q.parts m.parts)
      (q.compileWith (logging settings))
  | .logical label all any custom, hparts => by
    have hsub := hparts
    rw [Query.parts, List.forall_mem_cons, List.forall_mem_append] at hsub
    obtain ⟨hself, hall, hany⟩ := hsub
    rw [Query.compileWith]
    refine serves_query hg hself ?_
    refine serves_bind (lasting_servedIn _ _) (Query.serveAll hg all hall) fun ms => ?_
    refine serves_bind (lasting_servedIn _ _) (Query.serveAll hg any hany) fun ms' => ?_
    refine serves_pure fun log hms' hms n => ⟨rfl, ?_⟩
    rw [Query.parts, Matcher.parts, List.tail_cons, List.tail_cons]
    exact hms.append hms'
  | .fields label entries, hparts => by
    have hsub := hparts
    rw [Query.parts, List.forall_mem_cons] at hsub
    obtain ⟨hself, hentries⟩ := hsub
    rw [Query.compileWith]
    refine serves_query hg hself ?_
    refine serves_bind (lasting_servedIn _ _) (Condition.serveEntries hg entries hentries)
      fun tests => ?_
    refine serves_pure fun log htests n => ⟨rfl, ?_⟩
    rw [Query.parts, Matcher.parts, List.tail_cons, List.tail_cons]
    exact htests
  termination_by structural q => q

/-- So does compiling a group, -/
theorem Query.serveAll (hg : Grounds settings.alive known living) :
    (qs : List (Query Identity)) → (∀ r ∈ Query.partsOf qs, r ∈ living) →
    Serves known living (fun log ms => ServedIn log (Query.partsOf qs) (Matcher.partsOf ms))
      (Query.compileAllWith (logging settings) qs)
  | [], _ => serves_pure fun _ => .nil
  | q :: rest, hparts => by
    rw [Query.partsOf, List.forall_mem_append] at hparts
    rw [Query.compileAllWith]
    refine serves_bind (lasting_servedIn _ _) (q.serves hg hparts.1) fun m => ?_
    refine serves_bind (lasting_servedIn _ _) (Query.serveAll hg rest hparts.2) fun ms => ?_
    refine serves_pure fun log hms hm => ?_
    rw [Query.partsOf, Matcher.partsOf]
    exact hm.append hms
  termination_by structural qs => qs

/-- entries, -/
theorem Condition.serveEntries (hg : Grounds settings.alive known living) :
    (entries : List (String × Condition Identity)) →
    (∀ r ∈ Condition.partsOf entries, r ∈ living) →
    Serves known living
      (fun log tests => ServedIn log (Condition.partsOf entries) (Test.partsOf tests))
      (Condition.compileEntriesWith (logging settings) entries)
  | [], _ => serves_pure fun _ => .nil
  | (text, condition) :: rest, hparts => by
    rw [Condition.partsOf, List.forall_mem_append] at hparts
    rw [Condition.compileEntriesWith]
    refine serves_bind (fun _ _ _ h => h) (serves_read (Path.read text)) fun path => ?_
    refine serves_bind (lasting_servedIn _ _) (condition.serves hg hparts.1) fun test => ?_
    refine serves_bind (lasting_servedIn _ _) (Condition.serveEntries hg rest hparts.2)
      fun tests => ?_
    refine serves_pure fun log htests htest _ => ?_
    rw [Condition.partsOf, Test.partsOf]
    exact htest.append htests
  termination_by structural entries => entries

/-- a condition, -/
theorem Condition.serves (hg : Grounds settings.alive known living) :
    (condition : Condition Identity) → (∀ r ∈ condition.parts, r ∈ living) →
    Serves known living (fun log test => ServedIn log condition.parts test.parts)
      (condition.compileWith (logging settings))
  | .literal _, _ => serves_pure fun _ => .nil
  | .operators ops, hparts => by
    rw [Condition.compileWith]
    refine serves_bind (lasting_servedIn _ _) (Operator.serveAll hg ops hparts) fun checks => ?_
    exact serves_pure fun log hchecks => hchecks
  termination_by structural condition => condition

/-- operators, -/
theorem Operator.serveAll (hg : Grounds settings.alive known living) :
    (ops : List (Operator Identity)) → (∀ r ∈ Operator.partsOf ops, r ∈ living) →
    Serves known living
      (fun log checks => ServedIn log (Operator.partsOf ops) (Check.partsOf checks))
      (Operator.compileAllWith (logging settings) ops)
  | [], _ => serves_pure fun _ => .nil
  | op :: rest, hparts => by
    rw [Operator.partsOf, List.forall_mem_append] at hparts
    rw [Operator.compileAllWith]
    refine serves_bind (lasting_servedIn _ _) (op.serves hg hparts.1) fun check => ?_
    refine serves_bind (lasting_servedIn _ _) (Operator.serveAll hg rest hparts.2)
      fun checks => ?_
    refine serves_pure fun log hchecks hcheck => ?_
    rw [Operator.partsOf, Check.partsOf]
    exact hcheck.append hchecks
  termination_by structural ops => ops

/-- and an operator. -/
theorem Operator.serves (hg : Grounds settings.alive known living) :
    (op : Operator Identity) → (∀ r ∈ op.parts, r ∈ living) →
    Serves known living (fun log check => ServedIn log op.parts check.parts)
      (op.compileWith (logging settings))
  | .regex pattern options, _ => by
    rw [Operator.compileWith]
    refine serves_bind (fun _ _ _ h => h)
      (serves_read (readRegex settings.regexSizeLimit pattern options)) fun regex => ?_
    exact serves_pure fun _ _ => .nil
  | .not condition, hparts => by
    rw [Operator.compileWith]
    refine serves_bind (lasting_servedIn _ _) (condition.serves hg hparts) fun test => ?_
    exact serves_pure fun log htest => htest
  | .elemMatch query, hparts => by
    rw [Operator.compileWith]
    refine serves_bind (lasting_servedIn _ _) (query.serves hg hparts) fun m => ?_
    exact serves_pure fun log hm => hm
  | .eq _, _ | .ne _, _ | .gt _, _ | .gte _, _ | .lt _, _ | .lte _, _ | .among _, _
  | .notAmong _, _ | .present _, _ | .allOf _, _ | .someOf _, _ | .size _, _
  | .unknown _, _ => serves_pure fun _ => .nil
  termination_by structural op => op

end

end Serves

end DocQuery
