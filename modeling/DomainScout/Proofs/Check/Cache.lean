import DomainScout.Check.Cache
import DomainScout.Proofs.Number.Rounding
import Mathlib.Data.List.Nodup

/-!
# What reading and writing a cache does

Reading a key ends in one of three ways, and writing keeps every entry of another key whose time
is not over. So what is read of one key does not depend on what is read and written of others.

Main statements: `get_eq_some`, and `SameFor.read` with what keeps caches the same for a key.
-/
namespace DomainScout.Cache

variable {α : Type} {cache : Cache α} {now : Measure} {key : String}

/-- The ways in which reading a key can end. -/
inductive Got (cache : Cache α) (now : Measure) (key : String) : Option α × Cache α → Prop
  | missing (absent : cache.entry? key = none) : Got cache now key (none, cache)
  | past {entry : CacheEntry α} (found : cache.entry? key = some entry)
      (expired : cache.expired now entry = true) : Got cache now key (none, cache.erase key)
  | hit {entry : CacheEntry α} (found : cache.entry? key = some entry)
      (live : cache.expired now entry = false) : Got cache now key (some entry.value, cache)

theorem got (cache : Cache α) (now : Measure) (key : String) :
    Got cache now key (cache.get now key) := by
  unfold get
  cases found : cache.entry? key with
  | none => exact .missing found
  | some entry =>
    cases expired : cache.expired now entry with
    | true =>
      simp only [expired, if_true]
      exact .past found expired
    | false =>
      simp only [expired, Bool.false_eq_true, if_false]
      exact .hit found expired

theorem mem_of_entry? {entry : CacheEntry α} (found : cache.entry? key = some entry) :
    entry ∈ cache.entries ∧ entry.key = key := by
  have keyed := List.find?_some found
  exact ⟨List.mem_of_find?_eq_some found, eq_of_beq keyed⟩

theorem entry?_eq_none : cache.entry? key = none ↔ ∀ entry ∈ cache.entries, entry.key ≠ key := by
  simp only [Cache.entry?, List.find?_eq_none, beq_iff_eq, ne_eq]

theorem mem_erase {entry : CacheEntry α} :
    entry ∈ (cache.erase key).entries ↔ entry ∈ cache.entries ∧ entry.key ≠ key := by
  simp only [erase, List.mem_filter, bne_iff_ne, ne_eq]

theorem entry?_of_get_eq_none (unread : (cache.get now key).1 = none) :
    Cache.entry? (cache.get now key).2 key = none := by
  have ended := cache.got now key
  generalize cache.get now key = outcome at ended unread ⊢
  cases ended with
  | missing absent => exact absent
  | past => exact entry?_eq_none.mpr fun entry member => (mem_erase.mp member).2
  | hit => cases unread

theorem mem_of_mem_get {entry : CacheEntry α} (member : entry ∈ (cache.get now key).2.entries) :
    entry ∈ cache.entries := by
  have ended := cache.got now key
  generalize cache.get now key = outcome at ended member
  cases ended with
  | missing | hit => exact member
  | past => exact (mem_erase.mp member).1

theorem mem_set {entry : CacheEntry α} {value : α} :
    entry ∈ (cache.set now key value).entries ↔
      (entry ∈ cache.entries ∧ cache.expired now entry = false ∧ entry.key ≠ key) ∨
        entry = ⟨key, now, value⟩ := by
  simp only [set, erase, sweep, List.mem_append, List.mem_filter, List.mem_singleton,
    Bool.not_eq_true', bne_iff_ne, ne_eq, and_assoc]

theorem lifetime_get : (cache.get now key).2.lifetime = cache.lifetime := by
  have ended := cache.got now key
  generalize cache.get now key = outcome at ended ⊢
  cases ended <;> rfl

/-- The keys are told apart. -/
def Unique (cache : Cache α) : Prop := (cache.entries.map CacheEntry.key).Nodup

namespace Unique

theorem eq_of_key (unique : cache.Unique) {one other : CacheEntry α} (first : one ∈ cache.entries)
    (second : other ∈ cache.entries) (same : one.key = other.key) : one = other :=
  List.inj_on_of_nodup_map unique first second same

theorem filter (unique : cache.Unique) (test : CacheEntry α → Bool) :
    Unique { cache with entries := cache.entries.filter test } :=
  List.Nodup.sublist (List.filter_sublist.map CacheEntry.key) unique

theorem get (unique : cache.Unique) : (cache.get now key).2.Unique := by
  have ended := cache.got now key
  generalize cache.get now key = outcome at ended ⊢
  cases ended with
  | missing | hit => exact unique
  | past => exact unique.filter _

theorem set (unique : cache.Unique) (value : α) : (cache.set now key value).Unique := by
  -- Whatever had the key is erased before the new entry comes in.
  have kept : Unique ((cache.sweep now).erase key) := (unique.filter _).filter _
  have absent : key ∉ ((cache.sweep now).erase key).entries.map CacheEntry.key := by
    rintro member
    obtain ⟨entry, known, keyed⟩ := List.mem_map.mp member
    exact (mem_erase.mp known).2 keyed
  unfold Unique Cache.set
  rw [List.map_append, List.nodup_append]
  refine ⟨kept, List.nodup_singleton _, ?_⟩
  rintro _ known _ added rfl
  cases List.mem_singleton.mp added
  exact absent known

end Unique

theorem entry?_of_mem (unique : cache.Unique) {entry : CacheEntry α} (member : entry ∈ cache.entries) :
    cache.entry? entry.key = some entry := by
  cases found : cache.entry? entry.key with
  | none => exact absurd rfl (entry?_eq_none.mp found entry member)
  | some other =>
    obtain ⟨known, keyed⟩ := mem_of_entry? found
    rw [unique.eq_of_key known member keyed]

/-- What is read is an entry whose time is not over. -/
theorem get_eq_some (unique : cache.Unique) {value : α} :
    (cache.get now key).1 = some value ↔ ∃ entry ∈ cache.entries,
      entry.key = key ∧ entry.value = value ∧ cache.expired now entry = false := by
  constructor
  · intro read
    have ended := cache.got now key
    generalize cache.get now key = outcome at ended read
    cases ended with
    | missing | past => cases read
    | hit found live =>
      obtain ⟨member, keyed⟩ := mem_of_entry? found
      exact ⟨_, member, keyed, Option.some.inj read, live⟩
  · rintro ⟨entry, member, rfl, rfl, live⟩
    simp only [Cache.get, entry?_of_mem unique member, live, Bool.false_eq_true, if_false]

/-- Reading drops the entry of the key if its time is over, and nothing else. -/
theorem mem_get (unique : cache.Unique) {entry : CacheEntry α} :
    entry ∈ (cache.get now key).2.entries ↔
      entry ∈ cache.entries ∧ ¬ (entry.key = key ∧ cache.expired now entry = true) := by
  constructor
  · intro member
    refine ⟨mem_of_mem_get member, ?_⟩
    rintro ⟨rfl, past⟩
    have held := mem_of_mem_get member
    simp only [Cache.get, entry?_of_mem unique held, past, if_true] at member
    exact (mem_erase.mp member).2 rfl
  · rintro ⟨held, kept⟩
    have ended := cache.got now key
    generalize cache.get now key = outcome at ended ⊢
    cases ended with
    | missing | hit => exact held
    | past found expired =>
      refine mem_erase.mpr ⟨held, ?_⟩
      intro keyed
      obtain ⟨stored, keyed'⟩ := mem_of_entry? found
      cases unique.eq_of_key held stored (keyed.trans keyed'.symm)
      exact kept ⟨keyed, expired⟩

/-- An entry whose time is not over survives that a key is read. -/
theorem mem_get_of_live (unique : cache.Unique) {entry : CacheEntry α} (member : entry ∈ cache.entries)
    (live : cache.expired now entry = false) : entry ∈ (cache.get now key).2.entries := by
  refine (mem_get unique).mpr ⟨member, ?_⟩
  rintro ⟨-, past⟩
  cases live.symm.trans past

/-! ### One key -/

/-- What is not too old was not too old before. -/
theorem live_earlier {entry : CacheEntry α} {now after : Nat}
    (stored : ∃ moment ≤ now, entry.storedAt = .ofMilliseconds moment) (le : now ≤ after)
    (live : cache.expired (.ofMilliseconds after) entry = false) :
    cache.expired (.ofMilliseconds now) entry = false := by
  obtain ⟨moment, earlier, at_⟩ := stored
  unfold expired at live ⊢
  rw [at_] at live ⊢
  cases past : ((Measure.ofMilliseconds now).since (.ofMilliseconds moment)).reaches cache.lifetime with
  | false => rfl
  | true => cases live.symm.trans (Measure.reaches_since_mono earlier le past)

/-- Entries of different keys, stored by some moment of a clock that counts milliseconds. -/
structure Orderly (now : Nat) (cache : Cache α) : Prop where
  unique : cache.Unique
  moments : ∀ entry ∈ cache.entries, ∃ moment ≤ now, entry.storedAt = .ofMilliseconds moment

namespace Orderly

variable {now after : Nat} (orderly : cache.Orderly now)
include orderly

theorem get (clock : Measure) (key : String) : (cache.get clock key).2.Orderly now where
  unique := orderly.unique.get
  moments entry member := orderly.moments entry (mem_of_mem_get member)

theorem set (key : String) (value : α) : (cache.set (.ofMilliseconds now) key value).Orderly now where
  unique := orderly.unique.set value
  moments entry member := by
    rcases mem_set.mp member with ⟨known, -, -⟩ | rfl
    · exact orderly.moments entry known
    · exact ⟨now, Nat.le_refl _, rfl⟩

theorem later (le : now ≤ after) : cache.Orderly after where
  unique := orderly.unique
  moments entry member := by
    obtain ⟨moment, earlier, stored⟩ := orderly.moments entry member
    exact ⟨moment, Nat.le_trans earlier le, stored⟩

end Orderly

/-- Two caches hold the same for a key, but for an entry that is too old to be read. -/
structure SameFor (key : String) (now : Nat) (cache other : Cache α) : Prop where
  lifetime : other.lifetime = cache.lifetime
  orderly : cache.Orderly now
  orderly' : other.Orderly now
  live : ∀ entry, entry.key = key → cache.expired (.ofMilliseconds now) entry = false →
    (entry ∈ other.entries ↔ entry ∈ cache.entries)

namespace SameFor

theorem empty (key : String) (now : Nat) (lifetime : Measure) :
    SameFor key now (.empty lifetime : Cache α) (.empty lifetime) := by
  have orderly : (Cache.empty lifetime : Cache α).Orderly now := ⟨List.nodup_nil, by simp [Cache.empty]⟩
  exact ⟨rfl, orderly, orderly, fun _ _ _ => .rfl⟩

variable {other : Cache α} {now : Nat} (same : SameFor key now cache other)
include same

theorem expired_eq (clock : Measure) (entry : CacheEntry α) :
    other.expired clock entry = cache.expired clock entry := by
  rw [expired, expired, same.lifetime]

theorem symm : SameFor key now other cache := by
  refine ⟨same.lifetime.symm, same.orderly', same.orderly, ?_⟩
  intro entry keyed live
  rw [same.expired_eq] at live
  exact (same.live entry keyed live).symm

/-- Both are read alike. -/
theorem read : (other.get (.ofMilliseconds now) key).1 = (cache.get (.ofMilliseconds now) key).1 := by
  apply Option.ext
  intro value
  rw [get_eq_some same.orderly'.unique, get_eq_some same.orderly.unique]
  constructor
  · rintro ⟨entry, member, keyed, holds, live⟩
    rw [same.expired_eq] at live
    exact ⟨entry, (same.live entry keyed live).mp member, keyed, holds, live⟩
  · rintro ⟨entry, member, keyed, holds, live⟩
    refine ⟨entry, (same.live entry keyed live).mpr member, keyed, holds, ?_⟩
    rw [same.expired_eq]
    exact live

theorem later {moment : Nat} (le : now ≤ moment) : SameFor key moment cache other := by
  refine ⟨same.lifetime, same.orderly.later le, same.orderly'.later le, ?_⟩
  intro entry keyed live
  constructor
  · intro member
    have live' := live
    rw [← same.expired_eq] at live'
    have before := live_earlier (same.orderly'.moments entry member) le live'
    rw [same.expired_eq] at before
    exact (same.live entry keyed before).mp member
  · intro member
    have before := live_earlier (same.orderly.moments entry member) le live
    exact (same.live entry keyed before).mpr member

/-- That the one cache is read, whatever key, makes no difference. -/
theorem get_one (host : String) : SameFor key now (cache.get (.ofMilliseconds now) host).2 other := by
  refine ⟨same.lifetime.trans lifetime_get.symm, same.orderly.get _ _, same.orderly', ?_⟩
  intro entry keyed live
  rw [expired, lifetime_get] at live
  rw [same.live entry keyed live]
  exact ⟨fun member => mem_get_of_live same.orderly.unique member live, mem_of_mem_get⟩

theorem get_both (host : String) :
    SameFor key now (cache.get (.ofMilliseconds now) host).2 (other.get (.ofMilliseconds now) host).2 :=
  ((same.get_one host).symm.get_one host).symm

/-- That another key is written to the one cache makes no difference, though it is swept. -/
theorem set_one {host : String} (foreign : host ≠ key) (value : α) :
    SameFor key now (cache.set (.ofMilliseconds now) host value) other := by
  refine ⟨same.lifetime, same.orderly.set host value, same.orderly', ?_⟩
  intro entry keyed live
  rw [same.live entry keyed live, mem_set]
  constructor
  · intro member
    exact .inl ⟨member, live, fun at_ => foreign (at_.symm.trans keyed)⟩
  · rintro (⟨member, -, -⟩ | rfl)
    · exact member
    · exact absurd keyed foreign

theorem set_both (value : α) : SameFor key now (cache.set (.ofMilliseconds now) key value)
    (other.set (.ofMilliseconds now) key value) := by
  refine ⟨same.lifetime, same.orderly.set key value, same.orderly'.set key value, ?_⟩
  intro entry keyed _
  -- All that either cache holds of the key now is what was written.
  simp [mem_set, keyed]

theorem clear : SameFor key now cache.clear other.clear := by
  refine ⟨same.lifetime, ?_, ?_, fun _ _ _ => .rfl⟩ <;> exact ⟨List.nodup_nil, by simp [Cache.clear]⟩

end SameFor

end DomainScout.Cache
