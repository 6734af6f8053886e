import Mathlib.Data.List.Nodup
import DocQuery.Cache
/-!
# Looking up in the cache

A cache in which no address has two entries (`Cache.Keyed`) is read as a set:
`find?` gives a matcher exactly if the entry that it is looked up by is a
member (`find?_eq_some_iff`). Purging and adding are then described by what
they do to the members, and what look-ups do afterwards follows from that.
-/


namespace DocQuery

namespace Cache

variable {cache : Cache} {alive : Nat → Bool}

/-- No address has two entries. -/
def Keyed (cache : Cache) : Prop := (cache.entries.map Prod.fst).Nodup

/-- The cache without entries is keyed. -/
theorem keyed_empty : Cache.Keyed {} := List.nodup_nil

/-- In a keyed cache an address determines its entry. -/
theorem Keyed.eq (h : cache.Keyed) {x y : Nat × CacheEntry} (hx : x ∈ cache.entries)
    (hy : y ∈ cache.entries) (haddr : x.1 = y.1) : x = y :=
  List.inj_on_of_nodup_map h hx hy haddr

/-- The entry that is found at an address stands there. -/
theorem mem_of_entryAt? {a : Nat} {entry : CacheEntry} (h : cache.entryAt? a = some entry) :
    (a, entry) ∈ cache.entries := by
  obtain ⟨x, hx, rfl⟩ := Option.map_eq_some_iff.1 h
  have haddr : x.1 = a := by simpa using List.find?_some hx
  exact haddr ▸ List.mem_of_find?_eq_some hx

/-- A matcher that is found for a query stands at its address, with its
serial number. -/
theorem mem_of_find? {id : Identity} {m : Matcher} (h : cache.find? id = some m) :
    (id.address, ⟨id.serial, m⟩) ∈ cache.entries := by
  obtain ⟨entry, hentry, rfl⟩ := Option.map_eq_some_iff.1 h
  obtain ⟨hat, howner⟩ := Option.filter_eq_some_iff.1 hentry
  have howner : entry.owner = id.serial := by simpa using howner
  rw [← howner]
  exact mem_of_entryAt? hat

/-- **Look-up is membership.** -/
theorem find?_eq_some_iff (hkeyed : cache.Keyed) {id : Identity} {m : Matcher} :
    cache.find? id = some m ↔ (id.address, ⟨id.serial, m⟩) ∈ cache.entries := by
  refine ⟨mem_of_find?, fun h => ?_⟩
  have hat : cache.entryAt? id.address = some ⟨id.serial, m⟩ := by
    cases hfind : cache.entryAt? id.address with
    | none =>
      have hnone := List.find?_eq_none.1 (Option.map_eq_none_iff.1 hfind) _ h
      simp at hnone
    | some entry =>
      have heq := hkeyed.eq (mem_of_entryAt? hfind) h rfl
      rw [(Prod.mk.inj heq).2]
  unfold find?
  rw [hat]
  simp

/-! ## Purging -/

/-- A purge keeps the entries of queries that are alive. -/
@[simp] theorem mem_purge {x : Nat × CacheEntry} :
    x ∈ (cache.purge alive).entries ↔ x ∈ cache.entries ∧ alive x.2.owner = true :=
  List.mem_filter

/-- A purge leaves the cache keyed. -/
theorem Keyed.purge (h : cache.Keyed) (alive : Nat → Bool) : (cache.purge alive).Keyed :=
  h.sublist (List.filter_sublist.map _)

/-- Making room drops nothing but what a purge would drop. -/
theorem mem_makeRoom {x : Nat × CacheEntry} (h : x ∈ cache.entries)
    (halive : alive x.2.owner = true) : x ∈ (cache.makeRoom alive).entries := by
  unfold makeRoom
  split
  · exact mem_purge.2 ⟨h, halive⟩
  · exact h

/-- Making room adds nothing. -/
theorem mem_of_mem_makeRoom {x : Nat × CacheEntry} (h : x ∈ (cache.makeRoom alive).entries) :
    x ∈ cache.entries := by
  unfold makeRoom at h
  split at h
  · exact (mem_purge.1 h).1
  · exact h

/-- Making room leaves the cache keyed. -/
theorem Keyed.makeRoom (h : cache.Keyed) (alive : Nat → Bool) : (cache.makeRoom alive).Keyed := by
  unfold Cache.makeRoom
  split
  · exact h.purge alive
  · exact h

/-! ## Adding -/

/-- An entry that is put at an address takes the place of any other there. -/
theorem mem_put {x : Nat × CacheEntry} {a : Nat} {entry : CacheEntry} :
    x ∈ (cache.put a entry).entries ↔ x = (a, entry) ∨ (x ∈ cache.entries ∧ x.1 ≠ a) := by
  simp [put]

/-- Putting an entry leaves the cache keyed. -/
theorem Keyed.put (h : cache.Keyed) (a : Nat) (entry : CacheEntry) : (cache.put a entry).Keyed := by
  refine List.nodup_cons.2 ⟨?_, h.sublist (List.filter_sublist.map _)⟩
  simp

/-- A query that has a matcher keeps it. -/
theorem insert_of_some {id : Identity} {m earlier : Matcher} (h : cache.find? id = some earlier) :
    cache.insert alive id m = (earlier, cache) := by
  unfold insert
  rw [h]

/-- A query that has none gets the one that is added. -/
theorem insert_of_none {id : Identity} {m : Matcher} (h : cache.find? id = none) :
    cache.insert alive id m =
      (m, (cache.makeRoom alive).put id.address { owner := id.serial, matcher := m }) := by
  unfold insert
  rw [h]

end Cache

end DocQuery
