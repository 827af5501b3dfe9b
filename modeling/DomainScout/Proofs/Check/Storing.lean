import DomainScout.Proofs.Check.SingleFlight
import DomainScout.Proofs.Number.Rounding

/-!
# What is stored

A report is stored when its run ends without any error, and stays until it is too old or dropped.
An entry comes from the latest run of its domain, since a run is started only where none is stored.

Main statements: `Changes.entry_source`, where an entry comes from, and `Changes.entry_stays`.
-/
namespace DomainScout

/-- What a run ends with is about its domain, and its errors say something. -/
theorem Run.of_result? {run : Run} {report : Report} (complete : run.result? = some (.ok report)) :
    report.domain = run.id.domain ∧ (run.Telling → report.Telling) := by
  unfold Run.result? at complete
  split at complete
  · cases complete
  · cases complete
  · split at complete
    next told _ _ reported _ _ =>
      cases complete
      exact ⟨rfl, fun telling => ⟨telling told reported, ArchiveReport.merge_telling _ _ _⟩⟩
    · cases complete

namespace CheckService

variable {σ : Type} {sites : CheckSites σ} {service after : CheckService σ} {id : RunId}
  {entry : CacheEntry Report}

/-- A run is the latest one of its domain. -/
def Latest (service : CheckService σ) (id : RunId) : Prop :=
  id.number + 1 = (service.nextRun id.domain).number

theorem Latest.unique {other : RunId} (one : service.Latest id) (latest : service.Latest other)
    (same : id.domain = other.domain) : id = other := by
  obtain ⟨host, number⟩ := id
  obtain ⟨host', number'⟩ := other
  unfold Latest at one latest
  simp only at same one latest
  subst same
  congr 1
  omega

/-- A report was what the latest run of a domain ended with, and it tells no error. -/
def Sourced (service : CheckService σ) (entry : CacheEntry Report) : Prop :=
  ∃ id, id.domain = entry.key ∧ service.Latest id ∧ service.EndedWith id (.ok entry.value) ∧
    entry.value.isClean

/-- What is known of stored reports, at any moment. -/
structure Kept (service : CheckService σ) : Prop where
  tracked : Tracked service
  unique : service.cache.Unique
  moments : ∀ entry ∈ service.cache.entries,
    ∃ moment ≤ service.now, entry.storedAt = .ofMilliseconds moment
  sources : ∀ entry ∈ service.cache.entries, service.Sourced entry
  telling : ∀ run ∈ service.runs, run.Telling
  reports : ∀ id report, service.EndedWith id (.ok report) →
    report.domain = id.domain ∧ report.Telling

namespace Kept

theorem new (server : σ) (credentials : Credentials) (lifetime : Measure) :
    Kept (CheckService.new server credentials lifetime) where
  tracked := .new server credentials lifetime
  unique := List.nodup_nil
  moments _ member := nomatch member
  sources _ member := nomatch member
  telling _ member := nomatch member
  reports _ _ ended := nomatch ended.choose_spec.1

theorem same (kept : Kept service) (tracked : Tracked after) (runs : after.runs = service.runs)
    (cache : after.cache = service.cache) (now : service.now ≤ after.now) : Kept after := by
  have latest : ∀ id, after.Latest id ↔ service.Latest id := by
    have counts := @nextRun_congr _ service after (by rw [ids, ids, runs])
    intro id
    rw [Latest, counts]
    exact .rfl
  refine ⟨tracked, ?_, ?_, ?_, ?_, ?_⟩
  · rw [cache]
    exact kept.unique
  · rw [cache]
    intro entry member
    obtain ⟨moment, earlier, stored⟩ := kept.moments entry member
    exact ⟨moment, Nat.le_trans earlier now, stored⟩
  · rw [cache]
    simp only [Sourced, latest, stands_congr runs]
    exact kept.sources
  · rw [runs]
    exact kept.telling
  · simp only [stands_congr runs]
    exact kept.reports

/-- A run that has not ended is the latest one, so there is no entry for its domain. -/
theorem not_stored (kept : Kept service) (unfinished : service.Unfinished id)
    (member : entry ∈ service.cache.entries) : entry.key ≠ id.domain := by
  intro same
  obtain ⟨source, domain, latest, ended, -⟩ := kept.sources entry member
  have newest : service.Latest id := kept.tracked.latest id (kept.tracked.onRecord id unfinished)
  rw [latest.unique newest (domain.trans same)] at ended
  exact kept.tracked.not_unfinished ended unfinished

theorem looked (kept : Kept service) (host : String) :
    Kept { service with cache := (service.cache.get service.cacheClock host).2 } where
  tracked := kept.tracked.same rfl rfl rfl rfl
  unique := kept.unique.get
  moments entry member := kept.moments entry (Cache.mem_of_mem_get member)
  sources entry member := kept.sources entry (Cache.mem_of_mem_get member)
  telling := kept.telling
  reports := kept.reports

/-- A run is launched where nothing is stored, so every entry keeps its source. -/
theorem launched (kept : Kept service) {host : String} (missing : service.cache.entry? host = none)
    (unknown : service.flights.run? host = none) :
    Kept { service with
      runs := service.runs ++ [Run.new (service.nextRun host)]
      flights := service.flights.board (service.nextRun host) } := by
  refine ⟨kept.tracked.launched unknown, kept.unique, kept.moments, ?_, ?_, ?_⟩
  · intro entry member
    obtain ⟨id, domain, latest, ended, clean⟩ := kept.sources entry member
    refine ⟨id, domain, ?_, Stands.mono ended fun _ => List.mem_append_left _, clean⟩
    -- The source of an entry stays the latest run of its domain, since the new run is of another.
    have elsewhere : id.domain ≠ host := domain ▸ Cache.entry?_eq_none.mp missing entry member
    rw [Latest, number_nextRun rfl, if_neg elsewhere.symm]
    exact latest
  · intro run member
    rcases List.mem_append.mp member with known | added
    · exact kept.telling run known
    · cases List.mem_singleton.mp added
      intro _ told
      cases told
  · rintro id report ⟨run, member, named, ended⟩
    rcases List.mem_append.mp member with known | added
    · exact kept.reports id report ⟨run, known, named, ended⟩
    · cases List.mem_singleton.mp added
      cases ended

theorem noted (kept : Kept service) {change : Run → Run} (takesIn : Run.TakesIn change) :
    Kept (service.updateRun id change) := by
  have stands := @stands_updateRun _ service id _ takesIn
  have counts := nextRun_congr (@ids_updateRun _ service id _ takesIn.id)
  refine ⟨kept.tracked.noted takesIn, kept.unique, kept.moments, ?_, ?_, ?_⟩
  · intro entry member
    obtain ⟨source, domain, latest, ended, clean⟩ := kept.sources entry member
    refine ⟨source, domain, ?_, (stands _ _).mpr ended, clean⟩
    rw [Latest, counts]
    exact latest
  · intro run member
    obtain ⟨earlier, known, rfl⟩ := mem_updateRun.mp member
    split
    · exact takesIn.telling earlier (kept.telling earlier known)
    · exact kept.telling earlier known
  · exact fun source report ended => kept.reports source report ((stands _ _).mp ended)

/-! ### Storing -/

/-- What is in store afterwards was there before, or is the report that was stored. -/
theorem of_mem_store {outcome : Except Crash Report}
    (member : entry ∈ (service.store outcome).cache.entries) :
    entry ∈ service.cache.entries ∨ ∃ report, outcome = .ok report ∧ report.isClean ∧
      entry = ⟨report.domain, service.cacheClock, report⟩ := by
  unfold store at member
  split at member
  next report =>
    split at member
    next clean =>
      rcases Cache.mem_set.mp member with ⟨known, -, -⟩ | stored
      · exact .inl known
      · exact .inr ⟨report, rfl, clean, stored⟩
    · exact .inl member
  · exact .inl member

theorem mem_store_of_live {outcome : Except Crash Report} (member : entry ∈ service.cache.entries)
    (live : service.cache.expired service.cacheClock entry = false)
    (elsewhere : ∀ report, outcome = .ok report → entry.key ≠ report.domain) :
    entry ∈ (service.store outcome).cache.entries := by
  unfold store
  split
  next report =>
    split
    · exact Cache.mem_set.mpr (.inl ⟨member, live, elsewhere report rfl⟩)
    · exact member
  · exact member

theorem mem_store_self {report : Report} (clean : report.isClean) :
    ⟨report.domain, service.cacheClock, report⟩ ∈ (service.store (.ok report)).cache.entries := by
  unfold store
  simp only [clean, if_true]
  exact Cache.mem_set.mpr (.inr rfl)

theorem unique_store (unique : service.cache.Unique) (outcome : Except Crash Report) :
    (service.store outcome).cache.Unique := by
  unfold store
  split
  · split
    · exact unique.set _
    · exact unique
  · exact unique

theorem finished (kept : Kept service) {run : Run} {outcome : Except Crash Report}
    (found : service.run? id = some run) (unfinished : run.outcome = none)
    (complete : run.result? = some outcome) : Kept (service.finish id outcome) := by
  have change : Change service (service.finish id outcome) := .finished found unfinished complete
  obtain ⟨member, named⟩ := mem_of_run? found
  have counts := nextRun_congr (@ids_finish _ service id outcome)
  have reports : ∀ report, outcome = .ok report → report.domain = id.domain ∧ report.Telling := by
    rintro report rfl
    obtain ⟨domain, telling⟩ := Run.of_result? complete
    exact ⟨named ▸ domain, telling (kept.telling run member)⟩
  refine ⟨kept.tracked.finished found outcome, ?_, ?_, ?_, ?_, ?_⟩
  · rw [finish_eq]
    exact unique_store kept.unique outcome
  · rw [finish_eq]
    intro entry stored
    rcases of_mem_store stored with earlier | ⟨report, -, -, rfl⟩
    · exact kept.moments entry earlier
    · exact ⟨service.now, Nat.le_refl _, rfl⟩
  · intro entry stored
    have stored' : entry ∈ (service.store outcome).cache.entries := by
      rw [finish_eq] at stored
      exact stored
    -- What was stored before has its source; the new entry comes from the run that has just ended.
    rcases of_mem_store stored' with earlier | ⟨report, rfl, clean, rfl⟩
    · obtain ⟨source, domain, latest, ended, clean⟩ := kept.sources entry earlier
      refine ⟨source, domain, ?_, change.endedWith kept.tracked ended, clean⟩
      rw [Latest, counts]
      exact latest
    · refine ⟨id, (reports report rfl).1.symm, ?_, endedWith_finish found _, clean⟩
      rw [Latest, counts]
      exact kept.tracked.latest id (kept.tracked.onRecord id ⟨run, member, named, unfinished⟩)
  · intro later stays
    rw [finish_eq] at stays
    obtain ⟨earlier, known, rfl⟩ := mem_updateRun.mp stays
    have telling := kept.telling earlier known
    split <;> exact telling
  · intro source report ended
    by_cases own : source = id
    · subst own
      have same := (stands_finish_self (mem_ids_of_run? found) _).mp ended
      exact reports report (Option.some.inj same).symm
    · exact kept.reports source report ((stands_finish_of_ne own _).mp ended)

theorem changed (kept : Kept service) (change : Change service after) : Kept after := by
  have tracked := kept.tracked.changed change
  cases change with
  | errands | refused | taken => exact kept.same tracked rfl rfl (Nat.le_refl _)
  | looked => exact kept.looked _
  | launched missing unknown => exact kept.launched missing unknown
  | joined => exact kept.same tracked runs_join cache_join (Nat.le_of_eq now_join.symm)
  | noted takesIn => exact kept.noted takesIn
  | finished found unfinished complete => exact kept.finished found unfinished complete

theorem cleared (kept : Kept service) : Kept service.clearCache where
  tracked := kept.tracked.same rfl rfl rfl rfl
  unique := List.nodup_nil
  moments _ member := nomatch member
  sources _ member := nomatch member
  telling := kept.telling
  reports := kept.reports

theorem perform (kept : Kept service) (move : Move) : Kept (service.perform sites move) :=
  preserved_perform (fun change holds => holds.changed change)
    (fun _ _ holds => holds.same (holds.tracked.same rfl rfl rfl rfl) rfl rfl (Nat.le_refl _))
    (fun caller holds => holds.same (holds.tracked.gaveUp caller) rfl rfl (Nat.le_refl _))
    (fun place holds => holds.same (holds.tracked.forgotten place) rfl rfl (Nat.le_refl _))
    (fun _ holds => holds.same (holds.tracked.same rfl rfl rfl rfl) rfl rfl (Nat.le_add_right _ _))
    (fun holds => holds.cleared)
    (fun inquiries holds => holds.same (holds.tracked.ask inquiries) rfl rfl (Nat.le_refl _)) kept

end Kept

theorem kept_history (sites : CheckSites σ) (server : σ) (credentials : Credentials)
    (lifetime : Measure) (moves : List Move) :
    Kept ((CheckService.new server credentials lifetime).history sites moves) :=
  preserved_history (fun move holds => holds.perform move) (.new server credentials lifetime) moves

/-! ### Entries over time -/

/-- An entry is not too old at some moment. -/
def Live (lifetime : Measure) (now : Nat) (entry : CacheEntry Report) : Prop :=
  ((Measure.ofMilliseconds now).since entry.storedAt).reaches lifetime = false

/-- What is not too old was not too old before. -/
theorem Live.earlier {lifetime : Measure} {now later : Nat} (live : Live lifetime later entry)
    (stored : ∃ moment ≤ now, entry.storedAt = .ofMilliseconds moment) (le : now ≤ later) :
    Live lifetime now entry :=
  @Cache.live_earlier _ ⟨lifetime, []⟩ entry _ _ stored le live

/-- A run of a host has ended with a report in the meantime. -/
def Ends (service after : CheckService σ) (host : String) (report : Report) : Prop :=
  ∃ id, id.domain = host ∧ ¬ service.EndedWith id (.ok report) ∧ after.EndedWith id (.ok report)

/-- An entry holds the clean report with which a run has ended in the meantime. -/
structure Newly (service after : CheckService σ) (entry : CacheEntry Report) : Prop where
  ends : Ends service after entry.key entry.value
  clean : entry.value.isClean
  moment : entry.storedAt = after.cacheClock

namespace Change

theorem now (change : Change service after) : after.now = service.now := by
  cases change with
  | errands | refused | looked | launched | noted | taken => rfl
  | joined => exact now_join
  | finished => rw [finish_eq]

theorem lifetime (change : Change service after) :
    after.cache.lifetime = service.cache.lifetime := by
  cases change with
  | errands | refused | launched | noted | taken => rfl
  | looked => exact Cache.lifetime_get
  | joined => rw [cache_join]
  | @finished _ _ outcome =>
    rw [finish_eq]
    unfold store
    split
    · split <;> rfl
    · rfl

/-- An entry was there before, or holds the report with which a run has ended. -/
theorem entry_source (change : Change service after) (kept : Kept service)
    (member : entry ∈ after.cache.entries) :
    entry ∈ service.cache.entries ∨ Newly service after entry := by
  have later := kept.changed change
  cases change with
  | errands | refused | launched | noted | taken => exact .inl member
  | looked => exact .inl (Cache.mem_of_mem_get member)
  | joined =>
    rw [cache_join] at member
    exact .inl member
  | @finished id run outcome found unfinished complete =>
    obtain ⟨known, named⟩ := mem_of_run? found
    have stored : entry ∈ (service.store outcome).cache.entries := by
      rw [finish_eq] at member
      exact member
    refine (Kept.of_mem_store stored).imp_right ?_
    rintro ⟨report, rfl, clean, rfl⟩
    have itself : (service.finish id (.ok report)).EndedWith id (.ok report) := endedWith_finish found _
    refine ⟨⟨id, (later.reports id report itself).1.symm, ?_, itself⟩, clean, by rw [finish_eq]; rfl⟩
    exact fun ended => kept.tracked.not_unfinished ended ⟨run, known, named, unfinished⟩

theorem entry_stays (change : Change service after) (kept : Kept service)
    (member : entry ∈ service.cache.entries)
    (live : Live service.cache.lifetime service.now entry) : entry ∈ after.cache.entries := by
  have later := kept.changed change
  cases change with
  | errands | refused | launched | noted | taken => exact member
  | looked => exact Cache.mem_get_of_live kept.unique member live
  | joined =>
    rw [cache_join]
    exact member
  | @finished id run outcome found unfinished complete =>
    obtain ⟨known, named⟩ := mem_of_run? found
    rw [finish_eq]
    -- Storing overwrites an entry of the same domain only, and that domain had no entry.
    refine Kept.mem_store_of_live member live ?_
    rintro report rfl
    rw [(later.reports id report (endedWith_finish found _)).1]
    exact kept.not_stored ⟨run, known, named, unfinished⟩ member

/-- A clean report with which a run ends is stored. -/
theorem stores (change : Change service after) {report : Report}
    (before : ¬ service.EndedWith id (.ok report)) (ended : after.EndedWith id (.ok report))
    (clean : report.isClean) :
    ⟨report.domain, after.cacheClock, report⟩ ∈ after.cache.entries := by
  cases change with
  | errands | refused | looked | taken => exact absurd ended before
  | launched =>
    obtain ⟨run, member, named, ended⟩ := ended
    rcases List.mem_append.mp member with known | added
    · exact absurd ⟨run, known, named, ended⟩ before
    · cases List.mem_singleton.mp added
      cases ended
  | joined => exact absurd ((stands_congr runs_join _ _).mp ended) before
  | noted takesIn => exact absurd ((stands_updateRun takesIn _ _).mp ended) before
  | @finished other run outcome found =>
    by_cases own : id = other
    · subst own
      have same := (stands_finish_self (mem_ids_of_run? found) _).mp ended
      cases same
      rw [finish_eq]
      exact Kept.mem_store_self clean
    · exact absurd ((stands_finish_of_ne own _).mp ended) before

end Change

namespace Changes

theorem kept (changes : Changes service after) (kept : Kept service) : Kept after := by
  induction changes with
  | refl => exact kept
  | tail _ last ih => exact ih.changed last

theorem now (changes : Changes service after) : after.now = service.now := by
  induction changes with
  | refl => rfl
  | tail _ last ih => exact last.now.trans ih

theorem lifetime (changes : Changes service after) :
    after.cache.lifetime = service.cache.lifetime := by
  induction changes with
  | refl => rfl
  | tail _ last ih => exact last.lifetime.trans ih

theorem endedWith (changes : Changes service after) (tracked : Tracked service)
    {outcome : Except Crash Report} (ended : service.EndedWith id outcome) :
    after.EndedWith id outcome := by
  induction changes with
  | refl => exact ended
  | tail first last ih => exact last.endedWith (tracked.changes first) ih

theorem entry_source (changes : Changes service after) (kept : Kept service)
    (member : entry ∈ after.cache.entries) :
    entry ∈ service.cache.entries ∨ Newly service after entry := by
  induction changes with
  | refl => exact .inl member
  | @tail middle after first last ih =>
    -- Changes take no time, so the moment of storing is the moment after all of them.
    rcases last.entry_source (Changes.kept first kept) member with known | ⟨⟨id, host, before, ended⟩, clean, moment⟩
    · refine (ih known).imp_right ?_
      rintro ⟨⟨id, host, before, ended⟩, clean, moment⟩
      refine ⟨⟨id, host, before, last.endedWith (kept.tracked.changes first) ended⟩, clean, ?_⟩
      rw [moment, cacheClock, cacheClock, last.now]
    · exact .inr ⟨⟨id, host, fun earlier => before (Changes.endedWith first kept.tracked earlier), ended⟩,
        clean, moment⟩

theorem entry_stays (changes : Changes service after) (kept : Kept service)
    (member : entry ∈ service.cache.entries)
    (live : Live service.cache.lifetime service.now entry) : entry ∈ after.cache.entries := by
  induction changes with
  | refl => exact member
  | @tail middle after first last ih =>
    rw [← Changes.lifetime first, ← Changes.now first] at live
    exact last.entry_stays (Changes.kept first kept) ih live

theorem stores (changes : Changes service after) (kept : Kept service) {report : Report}
    (before : ¬ service.EndedWith id (.ok report)) (ended : after.EndedWith id (.ok report))
    (clean : report.isClean)
    (live : Live service.cache.lifetime service.now ⟨report.domain, after.cacheClock, report⟩) :
    ⟨report.domain, after.cacheClock, report⟩ ∈ after.cache.entries := by
  induction changes with
  | refl => exact absurd ended before
  | @tail middle after first last ih =>
    -- Either the last change ended the run and stored the report, or an earlier one did and it stays.
    by_cases earlier : middle.EndedWith id (.ok report)
    · have same : after.cacheClock = middle.cacheClock := by rw [cacheClock, cacheClock, last.now]
      rw [same] at live ⊢
      have stored := ih earlier live
      rw [← Changes.lifetime first, ← Changes.now first] at live
      exact last.entry_stays (Changes.kept first kept) stored live
    · exact last.stores earlier ended clean

end Changes

end CheckService

end DomainScout
