import DomainScout.Value.Measure

/-!
# Results that expire

A cache keeps one value for each key for a limited time. An entry that is read too late is
dropped, and every write drops all entries whose time is over. The clock may show whole or real
numbers, and only what lies between two readings counts. Where a clock mixes them freely, a reading
may be too far from an earlier one to be measured; then the cache can be neither read nor written.
-/
namespace DomainScout

/-- A stored value. -/
structure CacheEntry (α : Type) where
  key : String
  storedAt : Measure
  value : α

/-- Values that expire. -/
structure Cache (α : Type) where
  /-- How long an entry lives. -/
  lifetime : Measure
  /-- The entries, at most one for each key. -/
  entries : List (CacheEntry α)

namespace Cache

variable {α : Type}

/-- A cache without entries. -/
def empty (lifetime : Measure) : Cache α := ⟨lifetime, []⟩

/-- The time of an entry is over. -/
def expired (cache : Cache α) (now : Measure) (entry : CacheEntry α) : Bool :=
  (now.since entry.storedAt).reaches cache.lifetime

/-- The entry of a key, whether its time is over or not. -/
def entry? (cache : Cache α) (key : String) : Option (CacheEntry α) :=
  cache.entries.find? (·.key == key)

/-- Without the entry of a key. -/
def erase (cache : Cache α) (key : String) : Cache α :=
  { cache with entries := cache.entries.filter (·.key != key) }

/-- Read a key: the value, and the cache without the entry if its time is over. -/
def get (cache : Cache α) (now : Measure) (key : String) : Option α × Cache α :=
  match cache.entry? key with
  | none => (none, cache)
  | some entry => if cache.expired now entry then (none, cache.erase key) else (some entry.value, cache)

/-- Without the entries whose time is over. -/
def sweep (cache : Cache α) (now : Measure) : Cache α :=
  { cache with entries := cache.entries.filter (!cache.expired now ·) }

/-- Write a key, dropping what has expired. -/
def set (cache : Cache α) (now : Measure) (key : String) (value : α) : Cache α :=
  let kept := (cache.sweep now).erase key
  { kept with entries := kept.entries ++ [⟨key, now, value⟩] }

/-- The time of some entries can be told. -/
def measure (now : Measure) (entries : List (CacheEntry α)) : Except NumberFault Unit :=
  entries.forM fun entry => discard (now.since? entry.storedAt)

/-- Read a key, if the time of its entry can be told. -/
def get? (cache : Cache α) (now : Measure) (key : String) :
    Except NumberFault (Option α × Cache α) := do
  measure now (cache.entry? key).toList
  return cache.get now key

/-- Write a key, if the time of every entry can be told. -/
def set? (cache : Cache α) (now : Measure) (key : String) (value : α) :
    Except NumberFault (Cache α) := do
  measure now cache.entries
  return cache.set now key value

/-- Without any entry. -/
def clear (cache : Cache α) : Cache α := { cache with entries := [] }

/-- The number of entries. -/
def size (cache : Cache α) : Nat := cache.entries.length

end Cache

end DomainScout
