import DomainScout.Proofs.Check.Cache
import DomainScout.Proofs.Last

/-!
# What a cache remembers

A cache forgets in three ways: an entry that is read too late is dropped, a write drops all that is
over, and clearing drops everything. None of that can be told from outside. Whatever was done before,
a cache answers as its history says: with what was last written since it was last cleared, as long as
that is younger than the lifetime.

Main statements: `remembers_history`, `refines_history`.
-/
namespace DomainScout.Cache

variable {α : Type}

/-! ### Histories -/

/-- What a cache is asked to do. -/
inductive Use (α : Type) where
  | set (key : String) (value : α)
  | get (key : String)
  | clear

/-- What a cache was asked to do, and when. -/
structure Event (α : Type) where
  moment : Measure
  use : Use α

/-- Do what is asked. What is read is not kept. -/
def perform? (cache : Cache α) (event : Event α) : Except NumberFault (Cache α) :=
  match event.use with
  | .set key value => cache.set? event.moment key value
  | .get key => (cache.get? event.moment key).map Prod.snd
  | .clear => .ok cache.clear

/-- What becomes of a new cache. -/
def after? (lifetime : Measure) (history : List (Event α)) : Except NumberFault (Cache α) :=
  history.foldlM perform? (.empty lifetime)

/-- A clock that does not go back. It counts in whole numbers or in real ones, but not now in these
and now in those: whole numbers are told apart where real ones are not, so with every other reading
time would seem to shrink. -/
structure Clock (moments : List Measure) : Prop where
  forward : moments.Pairwise fun earlier later => later.reaches earlier = true
  alike : Measure.Alike moments

/-- The moments of a history, and one more. -/
def momentsTo (history : List (Event α)) (now : Measure) : List Measure :=
  history.map Event.moment ++ [now]

/-- The event neither writes the key nor clears the cache. -/
def Event.Spares (event : Event α) (key : String) : Prop :=
  event.use ≠ .clear ∧ ∀ value, event.use ≠ .set key value

/-- The entry is what was last written of its key since the cache was last cleared. -/
def LastSet (history : List (Event α)) (entry : CacheEntry α) : Prop :=
  ∃ earlier, Last (Event.Spares · entry.key) earlier ⟨entry.storedAt, .set entry.key entry.value⟩ history

/-- The time since something was stored has not reached the lifetime. Of numbers that is to say that it
is smaller. What is not a number is reached by nothing, so with such a lifetime everything stays
young. -/
def Young (lifetime stored now : Measure) : Prop := (now.since stored).reaches lifetime = false

/-! ### What was last written -/

section LastSet

variable {history : List (Event α)} {entry : CacheEntry α}

theorem LastSet.moment_mem (last : LastSet history entry) :
    entry.storedAt ∈ history.map Event.moment := by
  obtain ⟨earlier, last⟩ := last
  exact List.mem_map.mpr ⟨_, last.mem, rfl⟩

theorem not_lastSet_nil : ¬ LastSet ([] : List (Event α)) entry := by
  rintro ⟨earlier, last⟩
  exact not_last_nil last

/-- One more event either is the writing or spares the key. -/
theorem lastSet_snoc {event : Event α} :
    LastSet (history ++ [event]) entry ↔
      event = ⟨entry.storedAt, .set entry.key entry.value⟩ ∨
        event.Spares entry.key ∧ LastSet history entry := by
  simp only [LastSet, last_snoc, exists_or, exists_eq_left, exists_and_left,
    @eq_comm _ (Event.mk _ _) event]

/-- Reading writes nothing. -/
theorem lastSet_snoc_get {moment : Measure} {key : String} :
    LastSet (history ++ [⟨moment, .get key⟩]) entry ↔ LastSet history entry := by
  simp [lastSet_snoc, Event.Spares]

theorem lastSet_snoc_set {moment : Measure} {key : String} {value : α} :
    LastSet (history ++ [⟨moment, .set key value⟩]) entry ↔
      entry = ⟨key, moment, value⟩ ∨ entry.key ≠ key ∧ LastSet history entry := by
  obtain ⟨key', moment', value'⟩ := entry
  simp only [lastSet_snoc, Event.mk.injEq, Use.set.injEq, CacheEntry.mk.injEq]
  constructor
  · rintro (⟨rfl, rfl, rfl⟩ | ⟨⟨-, spared⟩, last⟩)
    · exact .inl ⟨rfl, rfl, rfl⟩
    · refine .inr ⟨?_, last⟩
      rintro rfl
      exact spared value rfl
  · rintro (⟨rfl, rfl, rfl⟩ | ⟨foreign, last⟩)
    · exact .inl ⟨rfl, rfl, rfl⟩
    · refine .inr ⟨⟨nofun, ?_⟩, last⟩
      rintro _ same
      cases same
      exact foreign rfl

theorem not_lastSet_snoc_clear {moment : Measure} :
    ¬ LastSet (history ++ [⟨moment, .clear⟩]) entry := by
  simp [lastSet_snoc, Event.Spares]

end LastSet

/-! ### Clocks -/

section Clock

variable {history : List (Event α)} {moment now : Measure}

@[simp]
theorem mem_momentsTo :
    moment ∈ momentsTo history now ↔ moment ∈ history.map Event.moment ∨ moment = now := by
  simp only [momentsTo, List.mem_append, List.mem_singleton]

theorem map_moment_snoc {use : Use α} :
    (history ++ [Event.mk now use]).map Event.moment = momentsTo history now :=
  List.map_append

/-- What a clock showed before, it showed of the events. -/
theorem Clock.before {event : Event α} (clock : Clock (momentsTo (history ++ [event]) now)) :
    Clock (momentsTo history event.moment) := by
  have sublist : List.Sublist (momentsTo history event.moment) (momentsTo (history ++ [event]) now) := by
    simp [momentsTo]
  exact ⟨clock.forward.sublist sublist, clock.alike.of_subset sublist.subset⟩

theorem Clock.reaches (clock : Clock (momentsTo history now))
    (member : moment ∈ history.map Event.moment) : now.reaches moment = true :=
  (List.pairwise_append.mp clock.forward).2.2 moment member now (List.mem_singleton.mpr rfl)

end Clock

/-! ### The invariant -/

theorem measure_eq_ok {now : Measure} {entries : List (CacheEntry α)}
    (told : ∀ entry ∈ entries, now.since? entry.storedAt = .ok (now.since entry.storedAt)) :
    measure now entries = .ok () := by
  induction entries with
  | nil => rfl
  | cons entry rest ih =>
    have first := told entry (List.mem_cons_self ..)
    have others := ih fun other member => told other (List.mem_cons_of_mem _ member)
    unfold measure at others ⊢
    simp only [List.forM_cons, List.forM_eq_forM, first] at others ⊢
    exact others

/-- A cache holds of its history what was last written, but for what was seen to be over. -/
structure Remembers (lifetime : Measure) (history : List (Event α)) (cache : Cache α) : Prop where
  lives : cache.lifetime = lifetime
  unique : cache.Unique
  stored : ∀ entry ∈ cache.entries, LastSet history entry
  kept : ∀ entry, LastSet history entry → entry ∈ cache.entries ∨
    ∃ moment ∈ history.map Event.moment,
      moment.reaches entry.storedAt = true ∧ (moment.since entry.storedAt).reaches lifetime = true

namespace Remembers

variable {lifetime now : Measure} {history : List (Event α)} {cache : Cache α}

theorem empty (lifetime : Measure) : Remembers lifetime [] (.empty lifetime : Cache α) where
  lives := rfl
  unique := List.nodup_nil
  stored _ member := nomatch member
  kept _ last := absurd last not_lastSet_nil

variable (remembers : Remembers lifetime history cache)
include remembers

theorem expired_iff {entry : CacheEntry α} :
    cache.expired now entry = false ↔ Young lifetime entry.storedAt now := by
  unfold expired Young
  rw [remembers.lives]

/-- All that was stored can be measured by the clock. -/
theorem told (clock : Clock (momentsTo history now)) {entry : CacheEntry α}
    (member : entry ∈ cache.entries) :
    now.since? entry.storedAt = .ok (now.since entry.storedAt) := by
  apply Measure.since?_eq_ok_of_alike
  apply clock.alike.of_subset
  simp [-List.mem_map, (remembers.stored entry member).moment_mem]

/-- What is young is still there: a clock that goes on makes nothing young again. -/
theorem mem_of_young (clock : Clock (momentsTo history now)) {entry : CacheEntry α}
    (last : LastSet history entry) (young : Young lifetime entry.storedAt now) :
    entry ∈ cache.entries := by
  -- Otherwise it was seen to be over at some moment, and so it is over now.
  refine (remembers.kept entry last).resolve_right ?_
  rintro ⟨moment, member, since, past⟩
  have alike : Measure.Alike [entry.storedAt, moment, now] := by
    apply clock.alike.of_subset
    simp [-List.mem_map, last.moment_mem, member]
  have still := Measure.reaches_since_of_alike alike since (clock.reaches member) past
  cases young.symm.trans still

/-! ### One event -/

theorem get?_eq_ok (clock : Clock (momentsTo history now)) (key : String) :
    cache.get? now key = .ok (cache.get now key) := by
  have told : measure now (cache.entry? key).toList = .ok () := by
    apply measure_eq_ok
    intro entry found
    have held := mem_of_entry? (Option.mem_toList.mp found)
    exact remembers.told clock held.1
  unfold get?
  rw [told]
  rfl

theorem set?_eq_ok (clock : Clock (momentsTo history now)) (key : String) (value : α) :
    cache.set? now key value = .ok (cache.set now key value) := by
  have told : measure now cache.entries = .ok () :=
    measure_eq_ok fun _ member => remembers.told clock member
  unfold set?
  rw [told]
  rfl

/-- What was last written is there and can be read, or it was seen to be over. -/
theorem live_or_past (clock : Clock (momentsTo history now)) {entry : CacheEntry α}
    (last : LastSet history entry) :
    entry ∈ cache.entries ∧ cache.expired now entry = false ∨ ∃ moment ∈ momentsTo history now,
      moment.reaches entry.storedAt = true ∧ (moment.since entry.storedAt).reaches lifetime = true := by
  rcases remembers.kept entry last with held | ⟨moment, member, since, past⟩
  · cases live : cache.expired now entry with
    | false => exact .inl ⟨held, rfl⟩
    | true =>
      rw [expired, remembers.lives] at live
      exact .inr ⟨now, by simp, clock.reaches last.moment_mem, live⟩
  · exact .inr ⟨moment, mem_momentsTo.mpr (.inl member), since, past⟩

theorem get (clock : Clock (momentsTo history now)) (key : String) :
    Remembers lifetime (history ++ [⟨now, .get key⟩]) (cache.get now key).2 where
  lives := lifetime_get.trans remembers.lives
  unique := remembers.unique.get
  stored entry member := lastSet_snoc_get.mpr (remembers.stored entry (mem_of_mem_get member))
  kept entry last := by
    rw [map_moment_snoc]
    refine (remembers.live_or_past clock (lastSet_snoc_get.mp last)).imp_left ?_
    rintro ⟨held, live⟩
    exact mem_get_of_live remembers.unique held live

theorem set (clock : Clock (momentsTo history now)) (key : String) (value : α) :
    Remembers lifetime (history ++ [⟨now, .set key value⟩]) (cache.set now key value) where
  lives := remembers.lives
  unique := remembers.unique.set value
  stored entry member := by
    rw [lastSet_snoc_set]
    rcases mem_set.mp member with ⟨held, -, foreign⟩ | rfl
    · exact .inr ⟨foreign, remembers.stored entry held⟩
    · exact .inl rfl
  kept entry last := by
    rw [map_moment_snoc]
    rcases lastSet_snoc_set.mp last with rfl | ⟨foreign, last⟩
    · exact .inl (mem_set.mpr (.inr rfl))
    · -- What is swept away is over by now, and that is a moment of the history as well.
      refine (remembers.live_or_past clock last).imp_left ?_
      rintro ⟨held, live⟩
      exact mem_set.mpr (.inl ⟨held, live, foreign⟩)

theorem clear (moment : Measure) :
    Remembers lifetime (history ++ [⟨moment, .clear⟩]) cache.clear where
  lives := remembers.lives
  unique := List.nodup_nil
  stored _ member := nomatch member
  kept _ last := absurd last not_lastSet_snoc_clear

/-- Whatever is asked is done, and the cache remembers it. -/
theorem perform? {event : Event α} (clock : Clock (momentsTo history event.moment)) :
    ∃ after, cache.perform? event = .ok after ∧ Remembers lifetime (history ++ [event]) after := by
  obtain ⟨moment, use⟩ := event
  cases use with
  | set key value => exact ⟨_, remembers.set?_eq_ok clock key value, remembers.set clock key value⟩
  | get key =>
    refine ⟨(cache.get moment key).2, ?_, remembers.get clock key⟩
    simp only [Cache.perform?, remembers.get?_eq_ok clock key]
    rfl
  | clear => exact ⟨_, rfl, remembers.clear moment⟩

end Remembers

/-! ### Whole histories -/

variable {lifetime now : Measure} {history : List (Event α)} {cache : Cache α}

/-- A cache remembers its whole history. -/
theorem remembers_history (lifetime : Measure) (clock : Clock (momentsTo history now)) :
    ∃ cache, after? lifetime history = .ok cache ∧ Remembers lifetime history cache := by
  -- One event more is asked of the cache that remembers all the events before it.
  induction history using List.reverseRecOn generalizing now with
  | nil => exact ⟨_, rfl, .empty lifetime⟩
  | append_singleton history event ih =>
    obtain ⟨cache, reached, remembers⟩ := ih clock.before
    obtain ⟨after, applied, remembers'⟩ := remembers.perform? clock.before
    refine ⟨after, ?_, remembers'⟩
    unfold after? at reached ⊢
    rw [List.foldlM_append, reached]
    show ([event].foldlM Cache.perform? cache) = .ok after
    rw [List.foldlM_cons, applied]
    rfl

/-- Reading and writing a cache at some moment, told from its history alone. -/
structure Refines (lifetime : Measure) (history : List (Event α)) (now : Measure) (cache : Cache α) :
    Prop where
  /-- A key is read as what was last written of it, if that is young. Nothing is dropped but an
  entry of the key that is not. -/
  read : ∀ key, ∃ found after, cache.get? now key = .ok (found, after) ∧
    (∀ value, found = some value ↔
      ∃ stored, LastSet history ⟨key, stored, value⟩ ∧ Young lifetime stored now) ∧
    ∀ entry, entry ∈ after.entries ↔
      entry ∈ cache.entries ∧ ¬ (entry.key = key ∧ ¬ Young lifetime entry.storedAt now)
  /-- A write leaves one entry for each key whose last writing is young, and one for its own. -/
  write : ∀ key value, ∃ after, cache.set? now key value = .ok after ∧ after.Unique ∧
    ∀ other, other ∈ after.entries.map CacheEntry.key ↔
      other = key ∨
        ∃ stored earlier, LastSet history ⟨other, stored, earlier⟩ ∧ Young lifetime stored now
  /-- What is young is younger than the lifetime. -/
  young : lifetime.IsNumber → (∀ moment ∈ momentsTo history now, moment.IsFinite) →
    ∀ stored ∈ history.map Event.moment,
      (Young lifetime stored now ↔ (now.since stored).Less lifetime)

theorem Remembers.refines (remembers : Remembers lifetime history cache)
    (clock : Clock (momentsTo history now)) : Refines lifetime history now cache where
  read key := by
    refine ⟨(cache.get now key).1, (cache.get now key).2, remembers.get?_eq_ok clock key, ?_, ?_⟩
    · -- What can be read is stored and young, and both can be told from the history.
      intro value
      rw [get_eq_some remembers.unique]
      constructor
      · rintro ⟨entry, held, rfl, rfl, live⟩
        exact ⟨entry.storedAt, remembers.stored entry held, remembers.expired_iff.mp live⟩
      · rintro ⟨stored, last, young⟩
        exact ⟨_, remembers.mem_of_young clock last young, rfl, rfl, remembers.expired_iff.mpr young⟩
    · intro entry
      rw [mem_get remembers.unique, ← remembers.expired_iff, Bool.not_eq_false]
  write key value := by
    refine ⟨_, remembers.set?_eq_ok clock key value, remembers.unique.set value, ?_⟩
    intro other
    rw [List.mem_map]
    constructor
    · rintro ⟨entry, member, rfl⟩
      rcases mem_set.mp member with ⟨held, live, -⟩ | rfl
      · exact .inr ⟨_, _, remembers.stored entry held, remembers.expired_iff.mp live⟩
      · exact .inl rfl
    · intro named
      by_cases own : other = key
      · exact ⟨_, mem_set.mpr (.inr rfl), own.symm⟩
      · obtain ⟨stored, earlier, last, young⟩ := named.resolve_left own
        have held := remembers.mem_of_young clock last young
        exact ⟨_, mem_set.mpr (.inl ⟨held, remembers.expired_iff.mpr young, own⟩), rfl⟩
  young number finite stored member := by
    have alike : Measure.Alike [stored, now] := by
      apply clock.alike.of_subset
      simp [-List.mem_map, member]
    have elapsed := Measure.isNumber_since alike (finite stored (mem_momentsTo.mpr (.inl member)))
      (finite now (mem_momentsTo.mpr (.inr rfl))) (clock.reaches member)
    exact Measure.reaches_eq_false_iff elapsed number

/-- Whatever was done before, a cache is read and written as its history says. -/
theorem refines_history (lifetime : Measure) (clock : Clock (momentsTo history now)) :
    ∃ cache, after? lifetime history = .ok cache ∧ Refines lifetime history now cache := by
  obtain ⟨cache, reached, remembers⟩ := remembers_history lifetime clock
  exact ⟨cache, reached, remembers.refines clock⟩

/-- Two keys that are written, and the first of them read when its time is just over. -/
def lateReading : List (Event Nat) :=
  [⟨.whole 0, .set "a.com" 1⟩, ⟨.whole 10, .set "b.com" 2⟩, ⟨.whole 60, .get "a.com"⟩]

theorem refines_lateReading : Clock (momentsTo lateReading (.whole 65)) ∧
    ∃ cache, after? (.whole 60) lateReading = .ok cache ∧
      Refines (.whole 60) lateReading (.whole 65) cache := by
  have clock : Clock (momentsTo lateReading (.whole 65)) := by
    refine ⟨?_, .inl ?_⟩
    · simp [momentsTo, lateReading, Measure.reaches_whole]
    · simp [momentsTo, lateReading]
  exact ⟨clock, refines_history (.whole 60) clock⟩

end DomainScout.Cache
