import DocQuery.Matcher
/-!
# The matcher cache

A query in memory has an identity: the serial number that it got when it was
made, which is never used again, and the address at which it lies, which may
be used again once the query is gone. The cache is a table from addresses to
matchers. It does not keep queries alive, so an entry also records the serial
number of the query that it was made for: an entry left by an earlier query
at the same address is not taken for one of the present query.

Entries of queries that are gone stay until a purge. One is made when an
entry is to be added to a cache of `purgeAt` entries, and whenever the
entries are counted; it sets `purgeAt` to twice the number of entries that
remain, and at least `leastPurgeAt`.
-/


namespace DocQuery

/-- What tells one query in memory from another. -/
structure Identity where
  serial : Nat
  address : Nat
  deriving DecidableEq

/-- A matcher, and the serial number of the query that it was made for. -/
structure CacheEntry where
  owner : Nat
  matcher : Matcher

/-- The least number of entries at which a purge is made. -/
def leastPurgeAt : Nat := 64

/-- Matchers by the address of their query. -/
structure Cache where
  entries : List (Nat × CacheEntry) := []
  purgeAt : Nat := leastPurgeAt

namespace Cache

/-- The cache without entries. -/
def empty : Cache := {}

/-- The entry at an address. -/
def entryAt? (cache : Cache) (address : Nat) : Option CacheEntry :=
  (cache.entries.find? fun entry => entry.1 == address).map (·.2)

/-- The matcher that was made for a query. -/
def find? (cache : Cache) (id : Identity) : Option Matcher :=
  ((cache.entryAt? id.address).filter fun entry => entry.owner == id.serial).map (·.matcher)

/-- Drops the entries of queries that are gone. -/
def purge (cache : Cache) (alive : Nat → Bool) : Cache :=
  let entries := cache.entries.filter fun entry => alive entry.2.owner
  { entries, purgeAt := max (2 * entries.length) leastPurgeAt }

/-- Puts an entry at an address, in the place of any other one there. -/
def put (cache : Cache) (address : Nat) (entry : CacheEntry) : Cache :=
  { cache with entries := (address, entry) :: cache.entries.filter fun e => e.1 != address }

/-- Makes a purge if the cache has grown to where one is due. -/
def makeRoom (cache : Cache) (alive : Nat → Bool) : Cache :=
  if cache.purgeAt ≤ cache.entries.length then cache.purge alive else cache

/-- Adds the matcher of a query. A matcher that the query already has is kept
and given back instead. -/
def insert (cache : Cache) (alive : Nat → Bool) (id : Identity) (matcher : Matcher) :
    Matcher × Cache :=
  match cache.find? id with
  | some earlier => (earlier, cache)
  | none => (matcher, (cache.makeRoom alive).put id.address { owner := id.serial, matcher })

/-- The number of entries whose query is alive, and the cache without the
others. -/
def count (cache : Cache) (alive : Nat → Bool) : Nat × Cache :=
  let cache := cache.purge alive
  (cache.entries.length, cache)

end Cache

end DocQuery
