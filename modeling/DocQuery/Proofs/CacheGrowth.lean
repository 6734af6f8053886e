import DocQuery.Proofs.CacheLookup
import DocQuery.Proofs.Soundness
/-!
# How large a cache grows

A cache is looked into, added to and counted, with other queries alive each
time. `WatchedCache` is a cache with a log of what this does to the entries:
each purge, with the number of entries before and after it, and each entry that
is stored. The log does not change what is done (`cache_afterAll`).

There is room for one more entry whenever one is stored (`Bounded.room`), so that
a cache never holds more than `purgeAt` entries, and it holds no more than its
last purge has left and have been stored since. A purge that is made for want of
room therefore finds exactly `purgeAt` entries, and at least half of them are new
since the last one.

A session does nothing else with its cache (`Session.used_after`).
-/


namespace DocQuery

/-- A use of a cache. -/
inductive CacheUse where
  | find (id : Identity)
  | insert (id : Identity) (matcher : Matcher)
  | count

/-- Something that is done to the entries of a cache. -/
inductive CacheChange where
  /-- All of them are looked at, and some are left. -/
  | purge (scanned left : Nat)
  | store
  deriving DecidableEq

namespace CacheChange

/-! Of what has been done the latest comes first. -/

/-- The number of entries that the last purge has left, none before the
first. -/
def lastLeft : List CacheChange → Nat
  | [] => 0
  | .purge _ left :: _ => left
  | .store :: rest => lastLeft rest

/-- The number of entries that have been stored since the last purge. -/
def storedSince : List CacheChange → Nat
  | .store :: rest => storedSince rest + 1
  | _ => 0

/-- The largest number of entries that a purge has left. -/
def mostLeft : List CacheChange → Nat
  | [] => 0
  | .purge _ left :: rest => max left (mostLeft rest)
  | .store :: rest => mostLeft rest

theorem lastLeft_le_mostLeft (log : List CacheChange) : lastLeft log ≤ mostLeft log := by
  induction log with
  | nil => exact Nat.le_refl 0
  | cons change rest ih => cases change with
    | purge scanned left => exact Nat.le_max_left left _
    | store => exact ih

end CacheChange

open CacheChange

namespace Cache

/-- The cache after a use. -/
def after (cache : Cache) (alive : Nat → Bool) : CacheUse → Cache
  | .find _ => cache
  | .insert id m => (cache.insert alive id m).2
  | .count => (cache.count alive).2

/-- The cache after several uses, each with the queries that are alive then. -/
def afterAll (cache : Cache) (uses : List ((Nat → Bool) × CacheUse)) : Cache :=
  uses.foldl (fun cache use => cache.after use.1 use.2) cache

end Cache

/-- A cache, and what has been done to its entries. -/
structure WatchedCache where
  cache : Cache := .empty
  log : List CacheChange := []

namespace WatchedCache

/-- A purge is logged with what it finds and what it leaves, -/
def purge (w : WatchedCache) (alive : Nat → Bool) : WatchedCache where
  cache := w.cache.purge alive
  log := .purge w.cache.entries.length (w.cache.purge alive).entries.length :: w.log

/-- and an entry when it is stored. -/
def put (w : WatchedCache) (address : Nat) (entry : CacheEntry) : WatchedCache where
  cache := w.cache.put address entry
  log := .store :: w.log

/-- Makes a purge if one is due. -/
def makeRoom (w : WatchedCache) (alive : Nat → Bool) : WatchedCache :=
  if w.cache.purgeAt ≤ w.cache.entries.length then w.purge alive else w

/-- The cache after a use, with what the use has done. -/
def after (w : WatchedCache) (alive : Nat → Bool) : CacheUse → WatchedCache
  | .find _ => w
  | .insert id m =>
    match w.cache.find? id with
    | some _ => w
    | none => (w.makeRoom alive).put id.address ⟨id.serial, m⟩
  | .count => w.purge alive

/-- The cache after several uses. -/
def afterAll (w : WatchedCache) (uses : List ((Nat → Bool) × CacheUse)) : WatchedCache :=
  uses.foldl (fun w use => w.after use.1 use.2) w

variable {w : WatchedCache} {alive : Nat → Bool} {id : Identity} {m : Matcher}

/-! ## Watching changes nothing -/

theorem cache_makeRoom (w : WatchedCache) (alive : Nat → Bool) :
    (w.makeRoom alive).cache = w.cache.makeRoom alive := by
  unfold makeRoom Cache.makeRoom
  split <;> rfl

/-- A query that has a matcher keeps it. -/
theorem after_insert_of_some {earlier : Matcher} (h : w.cache.find? id = some earlier) :
    w.after alive (.insert id m) = w := by
  rw [after, h]

/-- Another one gets the matcher that is stored. -/
theorem after_insert_of_none (h : w.cache.find? id = none) :
    w.after alive (.insert id m) = (w.makeRoom alive).put id.address ⟨id.serial, m⟩ := by
  rw [after, h]

theorem cache_after (w : WatchedCache) (alive : Nat → Bool) (use : CacheUse) :
    (w.after alive use).cache = w.cache.after alive use := by
  cases use with
  | find id => rfl
  | count => rfl
  | insert id m =>
    rw [Cache.after]
    cases hfind : w.cache.find? id with
    | some earlier => rw [after_insert_of_some hfind, Cache.insert_of_some hfind]
    | none => rw [after_insert_of_none hfind, Cache.insert_of_none hfind, put, cache_makeRoom]

theorem cache_afterAll (w : WatchedCache) (uses : List ((Nat → Bool) × CacheUse)) :
    (w.afterAll uses).cache = w.cache.afterAll uses := by
  induction uses generalizing w with
  | nil => rfl
  | cons use rest ih =>
    have hafter : (w.after use.1 use.2).cache = w.cache.after use.1 use.2 := cache_after ..
    rw [afterAll, List.foldl_cons, Cache.afterAll, List.foldl_cons, ← hafter]
    exact ih _

/-! ## Bounds -/

/-- How many entries there are, and when the next purge is due. -/
structure Bounded (w : WatchedCache) : Prop where
  keyed : w.cache.Keyed
  length_le : w.cache.entries.length ≤ w.cache.purgeAt
  purgeAt_eq : w.cache.purgeAt = max 64 (2 * lastLeft w.log)
  length_le_stored : w.cache.entries.length ≤ lastLeft w.log + storedSince w.log

namespace Bounded

theorem empty : Bounded {} where
  keyed := Cache.keyed_empty
  length_le := Nat.zero_le _
  purgeAt_eq := rfl
  length_le_stored := Nat.zero_le _

theorem purge (h : Bounded w) (alive : Nat → Bool) : Bounded (w.purge alive) where
  keyed := h.keyed.purge alive
  length_le := by
    show (w.cache.purge alive).entries.length ≤ max (2 * (w.cache.purge alive).entries.length) 64
    omega
  purgeAt_eq := Nat.max_comm _ _
  length_le_stored := Nat.le_add_right _ 0

/-- **After making room there is room**: a purge that leaves something doubles
it. -/
theorem room (h : Bounded w) (alive : Nat → Bool) : Bounded (w.makeRoom alive) ∧
    (w.makeRoom alive).cache.entries.length < (w.makeRoom alive).cache.purgeAt := by
  unfold makeRoom
  split
  · refine ⟨h.purge alive, ?_⟩
    show (w.cache.purge alive).entries.length < max (2 * (w.cache.purge alive).entries.length) 64
    omega
  · exact ⟨h, Nat.lt_of_not_le ‹_›⟩

/-- Where there is room an entry can be stored. -/
theorem put (h : Bounded w) (hroom : w.cache.entries.length < w.cache.purgeAt) (address : Nat)
    (entry : CacheEntry) : Bounded (w.put address entry) := by
  have hlength : (w.cache.put address entry).entries.length ≤ w.cache.entries.length + 1 :=
    Nat.succ_le_succ (List.length_filter_le _ _)
  constructor
  case keyed => exact h.keyed.put address entry
  case length_le => exact Nat.le_trans hlength hroom
  case purgeAt_eq => exact h.purgeAt_eq
  case length_le_stored => exact Nat.le_trans hlength (Nat.succ_le_succ h.length_le_stored)

/-- **Every use keeps the bounds**, -/
theorem after (h : Bounded w) (alive : Nat → Bool) (use : CacheUse) :
    Bounded (w.after alive use) := by
  cases use with
  | find id => exact h
  | count => exact h.purge alive
  | insert id m =>
    cases hfind : w.cache.find? id with
    | some earlier => rwa [after_insert_of_some hfind]
    | none =>
      rw [after_insert_of_none hfind]
      exact (h.room alive).1.put (h.room alive).2 _ _

/-- and so do all uses. -/
theorem afterAll (h : Bounded w) (uses : List ((Nat → Bool) × CacheUse)) :
    Bounded (w.afterAll uses) := by
  induction uses generalizing w with
  | nil => exact h
  | cons use rest ih => exact ih (h.after use.1 use.2)

theorem length_le_most (h : Bounded w) :
    w.cache.entries.length ≤ max 64 (2 * mostLeft w.log) := by
  have hle := h.length_le
  have heq := h.purgeAt_eq
  have hmost := lastLeft_le_mostLeft w.log
  omega

/-- **Where a purge is due, half of the entries are new.** -/
theorem half_stored (h : Bounded w) (hfull : w.cache.purgeAt ≤ w.cache.entries.length) :
    w.cache.purgeAt ≤ 2 * storedSince w.log := by
  have heq := h.purgeAt_eq
  have hstored := h.length_le_stored
  omega

end Bounded

/-- **When an insertion makes a purge**: the query had no matcher, and there was
no room. -/
theorem log_after_insert_iff {scanned left : Nat} :
    (w.after alive (.insert id m)).log = .store :: .purge scanned left :: w.log ↔
      w.cache.find? id = none ∧ w.cache.purgeAt ≤ w.cache.entries.length ∧
        w.cache.entries.length = scanned ∧ (w.cache.purge alive).entries.length = left := by
  cases hfind : w.cache.find? id with
  | some earlier =>
    rw [after_insert_of_some hfind]
    refine iff_of_false (fun h => ?_) nofun
    have hlength := congrArg List.length h
    simp only [List.length_cons] at hlength
    omega
  | none =>
    rw [after_insert_of_none hfind]
    by_cases hfull : w.cache.purgeAt ≤ w.cache.entries.length
    · simp [makeRoom, put, purge, hfull]
    · simp [makeRoom, put, hfull]

end WatchedCache

/-! ## The cache of a session -/

/-- Uses lead from one cache to another. -/
def Cache.Used (cache cache' : Cache) : Prop := ∃ uses, cache' = cache.afterAll uses

namespace Cache.Used

variable {cache cache' cache'' : Cache}

theorem refl (cache : Cache) : Used cache cache := ⟨[], rfl⟩

theorem single (cache : Cache) (alive : Nat → Bool) (use : CacheUse) :
    Used cache (cache.after alive use) := ⟨[(alive, use)], rfl⟩

theorem trans (h : Used cache cache') (h' : Used cache' cache'') : Used cache cache'' := by
  obtain ⟨uses, rfl⟩ := h
  obtain ⟨uses', rfl⟩ := h'
  exact ⟨uses ++ uses', (List.foldl_append ..).symm⟩

end Cache.Used

/-- What compilation does to the state is to use its cache, if there is one. -/
def UsesCache {α : Type} (x : Compile α) : Prop :=
  ∀ s, Option.Rel Cache.Used s.cache (outcome x s).2.cache

theorem usesCache_of_state_eq {α : Type} {x : Compile α} (h : ∀ s, (outcome x s).2 = s) :
    UsesCache x := by
  intro s
  rw [h s]
  cases s.cache with
  | none => exact .none
  | some cache => exact .some (.refl cache)

theorem UsesCache.bind {α β : Type} {x : Compile α} {f : α → Compile β} (hx : UsesCache x)
    (hf : ∀ a, UsesCache (f a)) : UsesCache (x >>= f) := by
  intro s
  have hfirst := hx s
  rw [outcome_bind]
  rcases hrun : outcome x s with ⟨e | a, s'⟩ <;> rw [hrun] at hfirst
  · exact hfirst
  · have hsecond := hf a s'
    dsimp only at hfirst ⊢
    generalize s.cache = c, s'.cache = c', (outcome (f a) s').2.cache = c'' at hfirst hsecond
    cases hfirst with
    | none => exact hsecond
    | some h => cases hsecond with
      | some h' => exact .some (h.trans h')

/-- **Compiling a query uses the cache** and does nothing else to it. -/
theorem Query.usesCache_compile (settings : CompileSettings) (q : Query Identity) :
    UsesCache (q.compile settings) := by
  have hrelated : Compiler.Related (fun {α} (x _ : Compile α) => UsesCache x) (fun _ => True)
      (Compile.compiler settings) (Compile.compiler settings) :=
    { pure := fun _ => usesCache_of_state_eq fun _ => rfl
      bind := UsesCache.bind
      path := fun _ => usesCache_of_state_eq fun _ => rfl
      regex := fun _ _ => usesCache_of_state_eq fun _ => rfl
      query := fun {r build _} _ hbuild s => by
        rw [outcome_query]
        cases hfind : s.find? r.label with
        | some m => exact usesCache_of_state_eq (x := pure ()) (fun _ => rfl) s
        | none =>
          have hbuilt := hbuild s
          rcases hrun : outcome build s with ⟨e | make, next, cache⟩ <;> rw [hrun] at hbuilt
          · exact hbuilt
          · -- the matcher is registered in the cache that building has left
            dsimp only at hbuilt ⊢
            generalize s.cache = before at hbuilt
            cases hbuilt with
            | none => exact .none
            | @some _ cache h =>
              exact .some (h.trans (.single cache settings.alive (.insert r.label (make next)))) }
  exact q.related hrelated fun _ _ => trivial

theorem Engine.used_compile (engine : Engine) (alive : Nat → Bool) (q : Query Identity) :
    Cache.Used engine.cache (engine.compile alive q).2.cache := by
  have huses := q.usesCache_compile (engine.settings alive) engine.state
  rw [compile_eq]
  show Cache.Used engine.cache (Option.getD _ engine.cache)
  generalize (outcome (q.compile (engine.settings alive)) engine.state).2.cache = cache at huses
  rw [state] at huses
  split at huses
  · cases huses with
    | some h => exact h
  · cases huses
    exact .refl _

/-- **A session uses its cache**, whatever happens in it, and does nothing else
to it. -/
theorem Session.used_after (s : Session) (events : List Event) :
    Cache.Used s.engine.cache (s.after events).engine.cache := by
  refine Turns.keeps_state (I := fun s' _ => Cache.Used s.engine.cache s'.engine.cache)
    (fun {s₁ s₂ inUse _ _} h hturn => ?_) (turns_after s events) (.refl _)
  cases hturn with
  | make hmake =>
    obtain ⟨a, -, rfl⟩ := Session.make_eq_some hmake
    exact h
  | hold | release | dropQuery | setMatchers => exact h
  | @compile _ q _ => exact h.trans (s₁.engine.used_compile _ q)
  | count => exact h.trans (.single s₁.engine.cache (s₁.alive []) .count)

/-! ## Bounded caches -/

/-- **A cache stays bounded, and purges are paid for.** However a cache is used,
and whichever queries are alive each time,

* it holds at most `purgeAt` entries, those of queries that are gone included;
* this is twice what the last purge has left, and at least 64;
* so it never holds more than twice what some purge has left, or 64;
* an insertion that makes a purge finds exactly `purgeAt` entries, of which at
  least half have been stored since the purge before, and drops those of queries
  that are gone;
* and so does a count.

The cache of a session is used in no other way. -/
theorem cache_bounded_and_purges_paid_for :
    (∀ uses : List ((Nat → Bool) × CacheUse),
      let w := WatchedCache.afterAll {} uses
      let entries := w.cache.entries
      w.cache = Cache.afterAll .empty uses ∧ w.cache.Keyed ∧
      entries.length ≤ w.cache.purgeAt ∧
      w.cache.purgeAt = max 64 (2 * lastLeft w.log) ∧
      entries.length ≤ max 64 (2 * mostLeft w.log) ∧
      (∀ alive id m scanned left,
        (w.after alive (.insert id m)).log = .store :: .purge scanned left :: w.log →
        scanned = w.cache.purgeAt ∧ w.cache.purgeAt ≤ 2 * storedSince w.log ∧
        left = entries.countP (fun x => alive x.2.owner) ∧
        ∀ x, x ∈ (w.after alive (.insert id m)).cache.entries ↔
          x = (id.address, ⟨id.serial, m⟩) ∨
            (x ∈ entries ∧ alive x.2.owner = true) ∧ x.1 ≠ id.address) ∧
      ∀ alive x, x ∈ (w.after alive .count).cache.entries ↔
        x ∈ entries ∧ alive x.2.owner = true) ∧
    ∀ placement sorting config events,
      ∃ uses, ((Session.new placement sorting config).after events).engine.cache =
        Cache.afterAll .empty uses := by
  refine ⟨fun uses => ?_, fun _ _ _ events => Session.used_after _ events⟩
  intro w entries
  have h : w.Bounded := WatchedCache.Bounded.empty.afterAll uses
  refine ⟨WatchedCache.cache_afterAll {} uses, h.keyed, h.length_le, h.purgeAt_eq,
    h.length_le_most, fun alive id m scanned left hlog => ?_, fun alive x => Cache.mem_purge⟩
  obtain ⟨hmiss, hfull, rfl, rfl⟩ := WatchedCache.log_after_insert_iff.1 hlog
  refine ⟨Nat.le_antisymm h.length_le hfull, h.half_stored hfull,
    List.countP_eq_length_filter.symm, fun x => ?_⟩
  rw [WatchedCache.after_insert_of_none hmiss, WatchedCache.makeRoom, if_pos hfull]
  exact Cache.mem_put.trans (or_congr_right (and_congr_left' Cache.mem_purge))

/-- Sixty-four queries, none of which is alive, get their matchers. -/
def sixtyFourGone : List ((Nat → Bool) × CacheUse) :=
  (List.range 64).map fun i => (fun _ => false, .insert ⟨i, i⟩ (.fields i []))

/-- Before one more gets its own, they are dropped. -/
theorem dropped_before_one_more :
    ((WatchedCache.afterAll {} sixtyFourGone).after (fun _ => false)
        (.insert ⟨64, 64⟩ (.fields 64 []))).log =
      .store :: .purge 64 0 :: (WatchedCache.afterAll {} sixtyFourGone).log ∧
    64 = (WatchedCache.afterAll {} sixtyFourGone).cache.purgeAt ∧
    (WatchedCache.afterAll {} sixtyFourGone).cache.purgeAt ≤
      2 * storedSince (WatchedCache.afterAll {} sixtyFourGone).log := by
  have hlog : ((WatchedCache.afterAll {} sixtyFourGone).after (fun _ => false)
      (.insert ⟨64, 64⟩ (.fields 64 []))).log =
        .store :: .purge 64 0 :: (WatchedCache.afterAll {} sixtyFourGone).log := by decide +kernel
  have hpurge :=
    (cache_bounded_and_purges_paid_for.1 sixtyFourGone).2.2.2.2.2.1 _ _ _ _ _ hlog
  exact ⟨hlog, hpurge.1, hpurge.2.1⟩

end DocQuery
