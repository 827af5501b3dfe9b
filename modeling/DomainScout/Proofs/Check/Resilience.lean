import DomainScout.Proofs.Check.Recall
import DomainScout.Proofs.Check.Unbroken
import DomainScout.Settings

/-!
# Checks outlast remote trouble

Nothing that a remote service does keeps a check from ending with a report, except a login whose
data gives no usable token.

Main statement: `resilient`.
-/
namespace DomainScout.CheckService

open Remote

variable {σ : Type} {sites : CheckSites σ} {service : CheckService σ} {id : RunId} {host : String}
  {others : Nat → Prop}

/-! ### The outcome of checks -/

theorem spares_of_isOwn {move : Move} (own : move.isOwn = true) : move.Spares others := by
  cases move with
  | advance | event => trivial
  | arrive | clearCache | dropToken | ask => cases own

/-- Answers stay until new records are started. -/
theorem answers_history (tracked : Tracked service) {moves : List Move}
    (recorded : ∀ inquiries, .ask inquiries ∉ moves) :
    ∃ newer, (service.history sites moves).answers = service.answers ++ newer := by
  induction moves generalizing service with
  | nil => exact ⟨[], (List.append_nil _).symm⟩
  | cons move moves ih =>
    obtain ⟨newer, grown, -⟩ := @answers_perform _ _ sites tracked move
      fun inquiries asks => recorded inquiries (asks ▸ List.mem_cons_self)
    obtain ⟨newest, grown'⟩ := ih (tracked.perform move)
      fun inquiries member => recorded inquiries (List.mem_cons_of_mem _ member)
    exact ⟨newer ++ newest, by rw [← List.append_assoc, ← grown]; exact grown'⟩

/-- A caller has got a report on a host since the given answers, and its errors say something. -/
def Informed (host : String) (caller : Nat) (earlier : List CheckAnswer) (service : CheckService σ) :
    Prop :=
  ∃ newer, service.answers = earlier ++ newer ∧ ∃ answer ∈ newer, answer.caller = caller ∧
    ∃ checked, answer.result = .ok checked ∧ checked.report.domain = host ∧ checked.report.Telling

/-- What it means that no remote trouble keeps checks of a host from being answered. -/
structure Resilient (sites : CheckSites σ) (host : String) (service : CheckService σ) : Prop where
  /-- Every run of the host that has ended did so with a report on it, whose errors say something. -/
  ended : ∀ id outcome, id.domain = host → service.EndedWith id outcome →
    ∃ report, outcome = .ok report ∧ report.domain = host ∧ report.Telling
  /-- A caller who asks for the host and waits gets a report on it. In the meantime anything may
  happen but that a caller of the same number comes or gives up. -/
  answered : ∀ caller domain later, Host.ofValue domain = .ok host →
    (∀ timed ∈ service.agenda, timed.item.Spares (· ≠ caller)) →
    (∀ move ∈ later, move.Spares (· ≠ caller)) →
      Informed host caller service.answers
        (((service.perform sites (.arrive caller domain none)).history sites later).run sites)

theorem Smooth.ended (smooth : Smooth host others service) (kept : Kept service)
    {outcome : Except Crash Report} (about : id.domain = host) (ended : service.EndedWith id outcome) :
    ∃ report, outcome = .ok report ∧ report.domain = host ∧ report.Telling := by
  cases outcome with
  | error crash =>
    obtain ⟨run, member, rfl, broken⟩ := ended
    exact absurd broken ((smooth.runs run member about).outcome crash)
  | ok report =>
    obtain ⟨domain, telling⟩ := kept.reports id report ended
    exact ⟨report, rfl, domain.trans about, telling⟩

theorem exists_served {caller : Nat} {domain : Value} (reads : Host.ofValue domain = .ok host)
    (missing : (service.cache.get service.cacheClock host).1 = none) :
    ∃ id, id.domain = host ∧
      Served (service.arrive sites caller domain none) service.answers caller id := by
  have patient : (none : Option Nat) ≠ some 0 := nofun
  cases onRecord : service.flights.run? host with
  | some id =>
    refine ⟨id, (Flights.mem_of_run? onRecord).2, ?_⟩
    rw [arrive_eq_join patient reads missing onRecord]
    exact served_join
  | none => exact ⟨_, rfl, (arrive_launches patient reads missing onRecord).2⟩

/-- Whoever shared a run of a host has got a report once nothing is left to do. -/
theorem Served.informed {caller : Nat} {earlier : List CheckAnswer}
    (served : Served service earlier caller id) (about : id.domain = host)
    (smooth : Smooth host others service) (kept : Kept service) (settled : Settled service) :
    Informed host caller earlier service := by
  obtain ⟨newer, grown, waits | ⟨answer, member, own, outcome, ended, told⟩⟩ := served
  · rw [settled.waiters] at waits
    cases waits
  · obtain ⟨report, rfl, domain, telling⟩ := smooth.ended kept about ended
    exact ⟨newer, grown, answer, member, own, ⟨report, false⟩, told, domain, telling⟩

/-- Whoever asks for a host whose report is stored gets a report at once. -/
theorem informed_of_stored {caller : Nat} {domain : Value} {report : Report} (kept : Kept service)
    (reads : Host.ofValue domain = .ok host)
    (stored : (service.cache.get service.cacheClock host).1 = some report) :
    Informed host caller service.answers (service.arrive sites caller domain none) := by
  have patient : (none : Option Nat) ≠ some 0 := nofun
  obtain ⟨entry, member, key, rfl, -⟩ := (Cache.get_eq_some kept.unique).mp stored
  obtain ⟨id, about, -, ended, -⟩ := kept.sources entry member
  obtain ⟨domain', telling⟩ := kept.reports id entry.value ended
  rw [arrive_of_stored patient reads stored]
  exact ⟨_, rfl, _, List.mem_singleton.mpr rfl, rfl, ⟨entry.value, true⟩, rfl,
    (domain'.trans about).trans key, telling⟩

/-- Who has got a report has got it for good. -/
theorem Informed.history {caller : Nat} {earlier : List CheckAnswer}
    (informed : Informed host caller earlier service) (tracked : Tracked service) {moves : List Move}
    (recorded : ∀ inquiries, .ask inquiries ∉ moves) :
    Informed host caller earlier (service.history sites moves) := by
  obtain ⟨newer, grown, answer, member, rest⟩ := informed
  obtain ⟨newest, grown'⟩ := @answers_history _ sites service tracked moves recorded
  exact ⟨newer ++ newest, by rw [grown', grown, List.append_assoc], answer,
    List.mem_append_left _ member, rest⟩

theorem smooth_history (usable : sites.Usable) (civil : sites.Civil) (reaches : sites.Reaches host)
    (server : σ) {credentials : Credentials}
    (key : ∀ key, credentials.key? = some key → Plan.sendable key = true) (lifetime : Measure)
    (moves : List Move) :
    Smooth host (fun _ => True) ((CheckService.new server credentials lifetime).history sites moves) := by
  have start : Smooth host (fun _ => True) (CheckService.new server credentials lifetime) := by
    refine ⟨?_, ?_, key, ?_⟩
    · exact fun _ member => nomatch member
    · exact fun _ member => nomatch member
    · exact fun _ stored => nomatch stored
  refine start.history usable civil reaches ?_
  intro move _
  cases move with
  | ask => exact fun _ => trivial
  | arrive | advance | event | clearCache | dropToken => trivial

/-- Checks of a host are answered with reports on it, whatever the remote services do. -/
theorem resilient (sites : CheckSites σ) (usable : sites.Usable) (civil : sites.Civil) (server : σ)
    (credentials : Credentials)
    (key : ∀ key, credentials.key? = some key → Plan.sendable key = true) (lifetime : Measure)
    (moves : List Move) (host : String) (room : sites.HasRoom host) :
    Resilient sites host ((CheckService.new server credentials lifetime).history sites moves) := by
  have reaches := usable.reaches room
  let start := CheckService.new server credentials lifetime
  have smooth := smooth_history usable civil reaches server key lifetime moves
  have kept := kept_history sites server credentials lifetime moves
  constructor
  case ended => exact fun id outcome about ended => smooth.ended kept about ended
  case answered =>
    intro caller domain later reads idle spares
    let state := start.history sites moves
    let asked := state.arrive sites caller domain none
    -- Running to the end is a schedule too, in which nobody comes by a move.
    obtain ⟨rest, own, runs⟩ := exists_history_run sites (asked.history sites later)
    rw [← history_append] at runs
    have spares' : ∀ move ∈ later ++ rest, move.Spares (· ≠ caller) := fun move member =>
      (List.mem_append.mp member).elim (spares move) fun inRest => spares_of_isOwn (own move inRest)
    have recorded : ∀ inquiries, .ask inquiries ∉ later ++ rest :=
      fun inquiries member => spares' _ member caller rfl
    have tracked : Tracked asked := kept.tracked.perform (.arrive caller domain none)
    change Informed host caller state.answers ((asked.history sites later).run sites)
    -- A stored report is answered at once. Otherwise the caller shares a run, which is answered by
    -- the time that nothing is left to do.
    cases stored : (state.cache.get state.cacheClock host).1 with
    | some report =>
      rw [← runs]
      exact (informed_of_stored kept reads stored).history tracked recorded
    | none =>
      obtain ⟨id, about, served⟩ := @exists_served _ sites state host caller domain reads stored
      have quiet : Smooth host (· ≠ caller) state :=
        ⟨fun timed member => (smooth.events timed member).of_spares (idle timed member),
          smooth.runs, smooth.desk⟩
      have smooth' : Smooth host (· ≠ caller) asked := quiet.arrive usable civil reaches (.inl rfl)
      have stays := smooth'.not_happened usable civil reaches (fun differs => differs rfl) spares'
      have whole : start.history sites (moves ++ .arrive caller domain none :: later) =
          asked.history sites later := history_append _ _
      have settled : Settled ((asked.history sites later).run sites) := whole ▸ settled_run ..
      have kept' : Kept (asked.history sites (later ++ rest)) := by
        rw [history_append, ← whole, ← history_append]
        exact kept_history ..
      rw [← runs] at settled ⊢
      exact (served.history tracked _ recorded stays).informed about
        (smooth'.history usable civil reaches spares') kept' settled

/-! ### Two remote services -/

/-- The usual sites, where every request gets the same answer. -/
def answering (response : Response) : CheckSites Unit where
  serve := fun state _ => (⟨0, .answered response⟩, state)
  reputation := ⟨"https://api.spamhaus.com", .ofReal Settings.spamhausTimeout⟩
  archive := ⟨Settings.availabilityUrl, .ofReal Settings.availabilityTimeout, Settings.snapshotsUrl,
    .ofReal Settings.snapshotsTimeout⟩
  epoch := 0

theorem usable_answering (response : Response) : (answering response).Usable := by
  let reputation : Url := ⟨"https", "", "api.spamhaus.com", none, "", none, none⟩
  let availability : Url := ⟨"https", "", "archive.org", none, "/wayback/available", none, none⟩
  let snapshots : Url := ⟨"https", "", "web.archive.org", none, "/cdx/search/cdx", none, none⟩
  have one : Url.read "https://api.spamhaus.com" = .ok reputation := by decide +kernel
  have two : Url.read Settings.availabilityUrl = .ok availability := by decide +kernel
  have three : Url.read Settings.snapshotsUrl = .ok snapshots := by decide +kernel
  refine ⟨⟨reputation, one, rfl⟩, ⟨availability, two, rfl, by decide⟩, ⟨snapshots, three, rfl, by decide⟩, ?_⟩
  intro host errand
  cases errand <;> exact Timeout.ofReal_ne_unusable _

theorem hasRoom_answering (response : Response) : (answering response).HasRoom "example.com" := by
  have reads : Host.ofValue (.text "example.com") = .ok "example.com" := by decide +kernel
  have short : "https://api.spamhaus.com".length + "example.com".length + 64 ≤ Url.maxLength := by decide
  have availability : Settings.availabilityUrl.length ≤ Url.maxLength := by decide
  have snapshots : Settings.snapshotsUrl.length ≤ Url.maxLength := by decide
  exact CheckSites.hasRoom_of_length_le reads short availability snapshots

/-- A user with a name and a password. -/
def user : Credentials := ⟨none, some "u", some "p"⟩

/-- A login whose token expires after some seconds. -/
def loginAnswer (seconds : String) : Response :=
  ⟨200, Text.Utf8.encode ("\x7b\"token\":\"t\",\"expires\":" ++ seconds ++ "\x7d")⟩

theorem resilient_for_usable_login :
    (answering (loginAnswer "4102444800")).Usable ∧ (answering (loginAnswer "4102444800")).Civil ∧
      (∀ key, user.key? = some key → Plan.sendable key = true) ∧
      (answering (loginAnswer "4102444800")).HasRoom "example.com" ∧
      Resilient (answering (loginAnswer "4102444800")) "example.com"
        ((CheckService.new () user (.ofMilliseconds 900000)).history
          (answering (loginAnswer "4102444800")) [.arrive 0 (.text "example.com") none, .event 0]) := by
  have usable := usable_answering (loginAnswer "4102444800")
  have fine : ∀ data ∈ (Reputation.loginData (loginAnswer "4102444800")).toOption, Token.Usable data := by
    decide +kernel
  have civil : (answering (loginAnswer "4102444800")).Civil := by
    refine ⟨fun _ _ _ => nofun, ?_⟩
    intro state request response data _ answered given
    cases answered
    exact fine data (toOption_eq_some.mpr given)
  have key : ∀ key, user.key? = some key → Plan.sendable key = true := nofun
  have room := hasRoom_answering (loginAnswer "4102444800")
  exact ⟨usable, civil, key, room, resilient _ usable civil () user key _ _ "example.com" room⟩

/-- The crash that an answer tells. -/
def crash? (answer : CheckAnswer) : Option Crash :=
  match answer.result with
  | .error (.crash crash) => some crash
  | _ => none

/-- One login whose data gives no usable token breaks a check, although it is answered like any
other request. -/
theorem not_resilient_of_endless_login :
    (∀ state request crash, ((answering (loginAnswer "1e400")).serve state request).1.ending ≠ .crashed crash) ∧
      (answering (loginAnswer "1e400")).Usable ∧ (answering (loginAnswer "1e400")).HasRoom "example.com" ∧
      Host.ofValue (.text "example.com") = .ok "example.com" ∧
      ¬ Resilient (answering (loginAnswer "1e400")) "example.com"
          (CheckService.new () user (.ofMilliseconds 900000)) := by
  have reads : Host.ofValue (.text "example.com") = .ok "example.com" := by decide +kernel
  refine ⟨fun _ _ _ => nofun, usable_answering _, hasRoom_answering _, reads, ?_⟩
  intro resilient
  let start : CheckService Unit := CheckService.new () user (.ofMilliseconds 900000)
  have crashes : (((start.perform (answering (loginAnswer "1e400")) (.arrive 0 (.text "example.com") none)).history
      (answering (loginAnswer "1e400")) []).run (answering (loginAnswer "1e400"))).answers.map crash? =
        [some (.number .outOfRange)] := by
    decide +kernel
  obtain ⟨newer, grown, answer, member, -, checked, told, -⟩ :=
    resilient.answered 0 (.text "example.com") [] reads (fun _ member => nomatch member)
      (fun _ member => nomatch member)
  have all : newer.map crash? = [some (.number .outOfRange)] := by
    rw [← crashes, grown]
    rfl
  have crashed : crash? answer ∈ newer.map crash? := List.mem_map.mpr ⟨answer, member, rfl⟩
  rw [all, crash?, told] at crashed
  cases List.mem_singleton.mp crashed

end DomainScout.CheckService
