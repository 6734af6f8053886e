import Mathlib.Data.Finset.Card
import DocQuery.Proofs.Purging
/-!
# Counting cached matchers

The number of cached matchers is the number of living queries that have been
compiled, each counted once (`Remembers.cachedMatchers`). A query has been
compiled if it is in the log of the history, be it as the root of a
compilation or within another query, and be it that the compilation has failed
later on.

The two sides meet in the serial numbers. An entry that a purge leaves is the
entry of a query in the log that lives, and there is one for each, since a
cache that fits the log holds the entries of all of them. With what is said of
purges in DocQuery/Proofs/Purging, it follows that the number does not depend
on when purges are made, nor on when one has asked for it before
(`cachedMatchers_exact`).
-/


namespace DocQuery

open Compile

/-- The serial numbers of the queries in a log. A query counts once, however
often it has been served. -/
def servedSerials (log : List Served) : Finset Nat :=
  (log.map fun e => e.query.label.serial).toFinset

/-- The serial numbers of a query and of all sub-queries. -/
def Query.serials (q : Query Identity) : Finset Nat := (q.labels.map (·.serial)).toFinset

theorem mem_servedSerials {log : List Served} {n : Nat} :
    n ∈ servedSerials log ↔ ∃ e ∈ log, e.query.label.serial = n := by
  simp [servedSerials]

theorem mem_serials {q : Query Identity} {n : Nat} :
    n ∈ q.serials ↔ ∃ r ∈ q.parts, r.label.serial = n := by
  simp [Query.serials, ← Query.map_label_parts]

/-! ## What a compilation serves -/

/-- **Compilation serves nothing but parts** of what is compiled. -/
theorem Engine.served_subset_parts {engine : Engine} {alive : Nat → Bool} {q : Query Identity} :
    ∀ e ∈ engine.served alive q, e.query ∈ q.parts := by
  have hrelated : Compiler.Related
      (fun {α} (x _ : Logged α) => ∀ s, ∀ e ∈ (x.outcome s).1.2, e.query ∈ q.parts) (· ∈ q.parts)
      (logging (engine.settings alive)) (logging (engine.settings alive)) :=
    { pure := fun a s e he => absurd he List.not_mem_nil
      bind := fun {α β x y f g} hx hf s e he => by
        have hlog := hx s
        rw [Logged.outcome_bind] at he
        rcases hout : x.outcome s with ⟨⟨error | a, log⟩, s'⟩ <;> rw [hout] at he hlog
        · exact hlog e he
        · exact (List.mem_append.1 he).elim (hlog e) (hf a s' e)
      path := fun text s e he => absurd he List.not_mem_nil
      regex := fun pattern options s e he => absurd he List.not_mem_nil
      query := fun {r build _} hr hbuild s e he => by
        have hlog := hbuild s
        rw [Logged.outcome_query] at he
        rcases hfind : s.find? r.label with - | m <;> rw [hfind] at he
        · rcases hout : build.outcome s with ⟨⟨error | make, log⟩, s'⟩ <;> rw [hout] at he hlog
          · exact hlog e he
          · rcases List.mem_append.1 he with he | he
            · exact hlog e he
            · rwa [List.mem_singleton.1 he]
        · rwa [List.mem_singleton.1 he] }
  exact q.related hrelated (fun _ hr => hr) engine.state

/-! ## What a cache counts -/

section Purge

variable {known living : List (Query Identity)} {cache : Cache} {next : Nat} {log : List Served}
  {alive : Nat → Bool}

/-- After a purge no two entries have one owner: they would be entries of one
query, at its address. -/
theorem Serving.owners_nodup (h : Serving known living cache next log)
    (hg : Grounds alive known living) :
    ((cache.purge alive).entries.map fun x => x.2.owner).Nodup := by
  refine List.Nodup.map_on (fun x hx y hy howner => ?_) (h.keyed.purge alive).of_map
  obtain ⟨e, he, rfl⟩ := h.owned x (Cache.mem_purge.1 hx).1
  obtain ⟨e', he', rfl⟩ := h.owned y (Cache.mem_purge.1 hy).1
  have hquery : e.query = e'.query :=
    hg.numbered _ (h.known_of_mem e he) _ (h.known_of_mem e' he') howner
  have haddress : e.entry.1 = e'.entry.1 := by rw [Served.entry, Served.entry, hquery]
  exact (h.keyed.purge alive).eq hx hy haddress

/-- After a purge the owners of entries are the living queries that have been
served. -/
theorem Serving.mem_owners (h : Serving known living cache next log)
    (hg : Grounds alive known living)
    (halive : ∀ n, alive n = true → ∃ q ∈ living, q.label.serial = n) {n : Nat} :
    n ∈ (cache.purge alive).entries.map (fun x => x.2.owner) ↔
      n ∈ servedSerials log ∧ alive n = true := by
  rw [List.mem_map, mem_servedSerials]
  constructor
  · rintro ⟨x, hx, rfl⟩
    obtain ⟨hx, hlives⟩ := Cache.mem_purge.1 hx
    obtain ⟨e, he, rfl⟩ := h.owned x hx
    exact ⟨⟨e, he, rfl⟩, hlives⟩
  · rintro ⟨⟨e, he, rfl⟩, hlives⟩
    obtain ⟨q, hq, hserial⟩ := halive _ hlives
    obtain rfl := hg.numbered _ (hg.subset q hq) _ (h.known_of_mem e he) hserial
    exact ⟨e.entry, Cache.mem_purge.2 ⟨h.present e he hq, hlives⟩, rfl⟩

/-- **A purge leaves one entry** for each living query that has been
served. -/
theorem Serving.length_purge (h : Serving known living cache next log)
    (hg : Grounds alive known living)
    (halive : ∀ n, alive n = true → ∃ q ∈ living, q.label.serial = n) :
    (cache.purge alive).entries.length = ((servedSerials log).filter fun n => alive n).card := by
  have howners : ((cache.purge alive).entries.map fun x => x.2.owner).toFinset =
      (servedSerials log).filter fun n => alive n := by
    ext n
    rw [List.mem_toFinset, Finset.mem_filter, h.mem_owners hg halive]
  calc (cache.purge alive).entries.length
      = ((cache.purge alive).entries.map fun x => x.2.owner).length := (List.length_map ..).symm
    _ = ((cache.purge alive).entries.map fun x => x.2.owner).toFinset.card :=
        (List.toFinset_card_of_nodup (h.owners_nodup hg)).symm
    _ = ((servedSerials log).filter fun n => alive n).card := congrArg Finset.card howners

end Purge

namespace Session

variable {s : Session} {log : List Served}

/-- **The number of cached matchers** is the number of living queries that
have been served. -/
theorem Remembers.cachedMatchers (h : s.Remembers [] log) :
    s.cachedMatchers.1 = ((servedSerials log).filter fun n => s.alive [] n).card := by
  obtain ⟨-, known, hlaid, hserving⟩ := h
  exact hserving.length_purge hlaid.grounds fun n hn => alive_iff.1 hn

/-- **After a tuned history** the number is that of the history of its steps:
the two sessions are the same but for entries of queries that are gone. -/
theorem Remembers.cachedMatchers_afterTuned (h : s.Remembers [] log)
    (tuned : List (Option Nat × Event)) :
    let steps := (Event.steps (tuned.map Prod.snd)).map Event.step
    (s.afterTuned tuned).cachedMatchers.1 =
      ((servedSerials (log ++ s.log steps)).filter fun n => (s.after steps).alive [] n).card := by
  intro steps
  obtain ⟨cache, hafter, hremembers⟩ := afterTuned_eq h h tuned
  have hafter : s.afterTuned tuned = (s.after steps).withCache cache := hafter
  rw [hafter]
  exact hremembers.cachedMatchers

/-- **A compilation that succeeds** has served all parts of its query by
then, and nothing else that was not served before. -/
theorem Remembers.servedSerials_compile (h : s.Remembers [] log) {q : Query Identity}
    (hq : q ∈ s.world []) {m : Matcher} (hm : (s.engine.compile (s.alive []) q).1 = .ok m) :
    servedSerials (log ++ s.engine.served (s.alive []) q) = servedSerials log ∪ q.serials := by
  obtain ⟨hcache, known, hlaid, hserving⟩ := h
  have hparts : ∀ r ∈ q.parts, r ∈ s.world [] := fun r hr => Query.partsOf_trans hr _ hq
  -- the parts of the matcher are those that the parts of the query were served with
  have hall := (Engine.compile_serves hcache hlaid.grounds hparts hserving).2 m hm
  ext n
  rw [Finset.mem_union, mem_servedSerials, mem_servedSerials, mem_serials]
  constructor
  · rintro ⟨e, he, rfl⟩
    rcases List.mem_append.1 he with he | he
    · exact .inl ⟨e, he, rfl⟩
    · exact .inr ⟨e.query, Engine.served_subset_parts e he, rfl⟩
  · rintro (⟨e, he, rfl⟩ | ⟨r, hr, rfl⟩)
    · exact ⟨e, List.mem_append_left _ he, rfl⟩
    · obtain ⟨i, hi, rfl⟩ := List.mem_iff_getElem.1 hr
      have hlt : i < m.parts.length := hall.length_eq ▸ hi
      exact ⟨_, hall.get hi hlt, rfl⟩

/-- **Compiling adds what is new**: a compilation that succeeds adds the parts
of its query that had not been served before. -/
theorem Remembers.cachedMatchers_compile (h : s.Remembers [] log) {name query : String}
    {q : Query Identity} {m : Matcher} (hget : Entries.get? query s.queries = some q)
    (hreply : (s.step (.compile name query)).1 = .matcher m) :
    (s.step (.compile name query)).2.cachedMatchers.1 =
      s.cachedMatchers.1 + (q.serials \ servedSerials log).card := by
  have hq : q ∈ s.world [] := mem_world_of_get? hget
  have hafter := h.turns (turns_handle s (.step (.compile name query)))
  obtain ⟨m', hm, hqueries⟩ : ∃ m', (s.engine.compile (s.alive []) q).1 = .ok m' ∧
      (s.step (.compile name query)).2.queries = s.queries := by
    simp only [step, hget] at hreply ⊢
    generalize s.engine.compile (s.alive []) q = p at hreply ⊢
    obtain ⟨e | m', engine⟩ := p
    · cases hreply
    · exact ⟨m', rfl, rfl⟩
  have hserved : s.served (.step (.compile name query)) = s.engine.served (s.alive []) q := by
    rw [served, servedUnder, hget]
  have halive : (s.step (.compile name query)).2.alive [] = s.alive [] := by
    funext n
    rw [alive, alive, living, living, hqueries]
  -- the parts of the query live, so that all the new ones are counted
  have hlives : ∀ n ∈ q.serials, s.alive [] n = true := by
    intro n hn
    obtain ⟨r, hr, rfl⟩ := mem_serials.1 hn
    exact alive_iff.2 ⟨r, mem_world_of_part hget hr, rfl⟩
  rw [hserved] at hafter
  have hcount : (s.step (.compile name query)).2.cachedMatchers.1 = _ := hafter.cachedMatchers
  rw [hcount, h.cachedMatchers, h.servedSerials_compile hq hm]
  show ((servedSerials log ∪ q.serials).filter
    fun n => (s.step (.compile name query)).2.alive [] n).card = _
  have hnew : q.serials \ (servedSerials log).filter (fun n => s.alive [] n) =
      q.serials \ servedSerials log := by
    ext n
    simp only [Finset.mem_sdiff, Finset.mem_filter]
    exact and_congr_right fun hn => not_congr (and_iff_left (hlives n hn))
  rw [halive, Finset.filter_union, Finset.filter_true_of_mem hlives, Finset.union_comm,
    ← Finset.card_sdiff_add_card, hnew, Nat.add_comm]

end Session

/-- **The number of cached matchers is exact.** In every history of a session
with a cache, wherever queries are laid out:

* the number is that of the living queries that have been compiled in the
  history, each counted once;
* it is the same whenever else one has asked for it, and whenever purges have
  been made;
* a compilation that succeeds adds to it the number of parts of its query,
  each counted once, that had not been compiled.
-/
theorem cachedMatchers_exact (placement : Placement) (sorting : Sorting) (config : Config)
    (events : List Event) :
    let start := Session.new placement sorting { config with cacheMatchers := true }
    let s := start.after events
    let compiled := servedSerials (start.log events)
    s.cachedMatchers.1 = (compiled.filter fun n => s.alive [] n).card ∧
    (∀ tuned : List (Option Nat × Event),
      Event.steps (tuned.map Prod.snd) = Event.steps events →
      (start.afterTuned tuned).cachedMatchers.1 = s.cachedMatchers.1) ∧
    (∀ name query q m, Entries.get? query s.queries = some q →
      (s.step (.compile name query)).1 = .matcher m →
      (s.step (.compile name query)).2.cachedMatchers.1 =
        s.cachedMatchers.1 + (q.serials \ compiled).card) := by
  intro start s compiled
  have hstart : start.Remembers [] [] := Session.remembers_after placement sorting config []
  have hs : s.Remembers [] (start.log events) :=
    Session.remembers_after placement sorting config events
  refine ⟨hs.cachedMatchers, fun tuned hsteps => ?_, fun name query q m hget hreply =>
    hs.cachedMatchers_compile hget hreply⟩
  have hevents : (events.map fun event => ((none : Option Nat), event)).map Prod.snd = events := by
    rw [List.map_map]
    exact List.map_id events
  calc (start.afterTuned tuned).cachedMatchers.1
      = (start.afterTuned (events.map fun event => (none, event))).cachedMatchers.1 := by
        rw [hstart.cachedMatchers_afterTuned, hstart.cachedMatchers_afterTuned, hsteps, hevents]
    _ = s.cachedMatchers.1 := by rw [← start.after_eq_afterTuned]

/-- Two queries hold a third one, and the one that does not compile is
compiled. -/
def sharedPartHistory : List Event :=
  [.step (.store "a" (.fields .new [])),
    .step (.store "b" (.logical .new [.fields (.held "a") [], .fields .new []]
      [.fields (.held "a") []] none)),
    .step (.store "c" (.logical .new [.fields (.held "a") [],
      .fields .new [("[", .literal .null)]] [] none)),
    .step (.compile "m" "c")]

/-- The shared query stays compiled when one that holds it fails, and is not
counted again when the other one is compiled. -/
theorem cachedMatchers_of_shared_part :
    let start := Session.new .above .strict { ({} : Config) with cacheMatchers := true }
    let s := start.after sharedPartHistory
    let tuned := (some 0, .count) :: sharedPartHistory.map fun event => (some 0, event)
    s.cachedMatchers.1 = 1 ∧ (s.step (.compile "n" "b")).2.cachedMatchers.1 = 1 + 2 ∧
      (start.afterTuned tuned).cachedMatchers.1 = 1 := by
  obtain ⟨hcount, htuned, hadds⟩ := cachedMatchers_exact .above .strict {} sharedPartHistory
  have hone : _ = 1 := hcount.trans (by decide)
  have hadded := hadds "n" "b" (.logical ⟨2, 3⟩ [.fields ⟨0, 1⟩ [], .fields ⟨1, 2⟩ []]
    [.fields ⟨0, 1⟩ []] none) (.logical 2 [.fields 0 [], .fields 1 []] [.fields 0 []] none) rfl rfl
  refine ⟨hone, ?_, (htuned _ rfl).trans hone⟩
  rw [hadded, hone]
  rfl

end DocQuery
