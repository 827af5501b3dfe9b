import DomainScout.Proofs.Check.Focus
import DomainScout.Proofs.Check.Lagging
import DomainScout.Remote.Script
import DomainScout.Settings

/-!
# Domains are checked in isolation

A schedule in which many domains are checked is compared with the one in which only a single one of
them is: every other check is left out, and what it leads to does not happen, but everything else
is done at the same moments, from the passing of time to the clearing of the cache. With a fixed key,
and remote services that keep the domain apart, the two do the same for the domain.

Main statement: `isolated`.
-/
namespace DomainScout.CheckService

open Remote

variable {σ : Type}

/-! ### Schedules of checks -/

/-- One turn of a schedule of checks. -/
inductive Turn where
  /-- A check is put on the agenda for a caller. -/
  | check (caller : Nat) (inquiry : Inquiry)
  /-- The event at some place of the agenda happens, if there is one. -/
  | event (place : Nat)
  | advance (milliseconds : Nat)
  | clearCache
  | dropToken

def turn (sites : CheckSites σ) (service : CheckService σ) : Turn → CheckService σ
  | .check caller inquiry =>
    service.enter (service.now + inquiry.start) (.arrive caller inquiry.domain inquiry.patience)
  | .event place => service.happen sites place
  | .advance milliseconds => service.advance milliseconds
  | .clearCache => service.clearCache
  | .dropToken => service.dropToken

def course (sites : CheckSites σ) (service : CheckService σ) (turns : List Turn) : CheckService σ :=
  turns.foldl (turn sites) service

/-- The event that happens in a turn. -/
def occurring? (service : CheckService σ) : Turn → Option CheckEvent
  | .event place => service.agenda[place]?.map Timed.item
  | _ => none

/-- What happens along a schedule. -/
def occurred (sites : CheckSites σ) (service : CheckService σ) : List Turn → List CheckEvent
  | [] => []
  | turn :: turns =>
    (service.occurring? turn).toList ++ occurred sites (service.turn sites turn) turns

/-- The turn is not left to the service, and no check of anything but a domain. -/
def Turn.staysFor (domain : String) : Turn → Bool
  | .check _ inquiry => asksFor domain inquiry.domain
  | .event _ => false
  | .advance _ | .clearCache | .dropToken => true

/-- An event happens in the turn. -/
def Turn.isEvent : Turn → Bool
  | .event _ => true
  | _ => false

/-- What is left of a turn where only a domain is checked. An event is found in another place, since
there are fewer of them. -/
def onlyTurn (focus : Focus) (service : CheckService σ) : Turn → List Turn
  | .check caller inquiry =>
    if asksFor focus.domain inquiry.domain then [.check caller inquiry] else []
  | .event place =>
    match service.agenda[place]?.bind (focus.keep? ·.item) with
    | some _ => [.event (Agenda.sift focus.keep? (service.agenda.take place)).length]
    | none => []
  | .advance milliseconds => [.advance milliseconds]
  | .clearCache => [.clearCache]
  | .dropToken => [.dropToken]

/-- The schedule where only a domain is checked. -/
def onlyTurns (focus : Focus) (sites : CheckSites σ) (service : CheckService σ) :
    List Turn → List Turn
  | [] => []
  | turn :: turns =>
    service.onlyTurn focus turn ++ onlyTurns focus sites (service.turn sites turn) turns

section Schedules

variable {sites : CheckSites σ} {focus : Focus} {service only : CheckService σ}

theorem course_append (before after : List Turn) :
    service.course sites (before ++ after) = (service.course sites before).course sites after :=
  List.foldl_append

theorem onlyTurns_append (before after : List Turn) :
    service.onlyTurns focus sites (before ++ after) =
      service.onlyTurns focus sites before ++
        (service.course sites before).onlyTurns focus sites after := by
  induction before generalizing service with
  | nil => rfl
  | cons turn before ih =>
    rw [List.cons_append, onlyTurns, onlyTurns, ih, List.append_assoc]
    rfl

theorem occurred_append (before after : List Turn) :
    service.occurred sites (before ++ after) =
      service.occurred sites before ++ (service.course sites before).occurred sites after := by
  induction before generalizing service with
  | nil => rfl
  | cons turn before ih =>
    rw [List.cons_append, occurred, occurred, ih, List.append_assoc]
    rfl

/-- Of all that is not left to the service only the other checks are missing. -/
theorem filter_onlyTurns (turns : List Turn) :
    (service.onlyTurns focus sites turns).filter (!·.isEvent) =
      turns.filter (·.staysFor focus.domain) := by
  induction turns generalizing service with
  | nil => rfl
  | cons turn turns ih =>
    rw [onlyTurns, List.filter_append, ih, List.filter_cons]
    cases turn with
    | check caller inquiry =>
      by_cases asks : asksFor focus.domain inquiry.domain = true <;>
        simp [onlyTurn, Turn.staysFor, Turn.isEvent, asks]
    | event place =>
      cases found : service.agenda[place]?.bind (focus.keep? ·.item) <;>
        simp [onlyTurn, Turn.staysFor, Turn.isEvent, found]
    | advance | clearCache | dropToken => simp [onlyTurn, Turn.staysFor, Turn.isEvent]

/-- Checks that are asked for together are put on the agenda one after another. -/
theorem ask_eq_course (sites : CheckSites σ) (service : CheckService σ) (inquiries : List Inquiry) :
    service.ask inquiries = course sites { service with sent := [], answers := [] }
      (inquiries.zipIdx.map fun (inquiry, caller) => .check caller inquiry) := by
  have all (asked : List (Inquiry × Nat)) (service : CheckService σ) :
      service.course sites (asked.map fun (inquiry, caller) => .check caller inquiry) =
        { service with agenda := service.agenda ++ asked.map fun (inquiry, caller) =>
          ⟨service.now + inquiry.start, .arrive caller inquiry.domain inquiry.patience⟩ } := by
    induction asked generalizing service with
    | nil => simp [course]
    | cons first asked ih =>
      rw [List.map_cons, course, List.foldl_cons]
      refine (ih _).trans ?_
      simp [CheckService.turn, CheckService.enter, Agenda.enter]
  rw [all]
  rfl

end Schedules

variable {stage : Stage σ} {service only : CheckService σ}

namespace Apart

/-- A turn, and what is left of it where only the domain is checked. -/
theorem turn (apart : Apart stage service only) (turn : Turn)
    (known : ∀ caller inquiry, turn = .check caller inquiry →
      stage.ours caller = asksFor stage.domain inquiry.domain) :
    Apart stage (service.turn stage.sites turn)
        (only.course stage.sites (service.onlyTurn stage.toFocus turn)) ∧
      only.occurred stage.sites (service.onlyTurn stage.toFocus turn) =
        (service.occurring? turn).toList.filter stage.concerns := by
  cases turn with
  | check caller inquiry =>
    have asks := known caller inquiry rfl
    have fits : stage.Fits (.arrive caller inquiry.domain inquiry.patience) := asks
    have enters : Respects stage (stage.ours caller) fun service =>
        service.enter (service.now + inquiry.start) (.arrive caller inquiry.domain inquiry.patience) :=
      .byClock fun now => .enter (now + inquiry.start) fits
    cases about : asksFor stage.domain inquiry.domain with
    | true =>
      simp only [onlyTurn, about, if_true]
      exact ⟨enters.both (asks.trans about) apart, rfl⟩
    | false =>
      simp only [onlyTurn, about]
      exact ⟨enters.one (asks.trans about) apart, rfl⟩
  | advance milliseconds =>
    have later := apart.withClock (Nat.le_add_right service.now milliseconds)
    refine ⟨?_, rfl⟩
    change Apart stage (service.advance milliseconds) (only.advance milliseconds)
    rw [CheckService.advance, CheckService.advance, apart.now]
    exact later
  | clearCache => exact ⟨apart.clearCache, rfl⟩
  | dropToken =>
    have dropped : Respects stage true CheckService.dropToken := .dropToken
    exact ⟨dropped.both rfl apart, rfl⟩
  | event place =>
    cases found : service.agenda[place]? with
    | none =>
      -- There is no event at this place, so nothing happens.
      simpa [CheckService.turn, happen, onlyTurn, occurring?, found, course, occurred] using apart
    | some timed =>
      have fits : stage.Fits timed.item := apart.fitting timed (List.mem_of_getElem? found)
      have erased : ∀ other ∈ service.agenda.eraseIdx place, other ∈ service.agenda :=
        fun _ member => List.mem_of_mem_eraseIdx member
      have taken := apart.withAgenda erased
      cases about : stage.concerns timed.item with
      | true =>
        -- It stands behind as many events of the other agenda as are kept of those before it.
        obtain ⟨here, without⟩ := Agenda.sift_place found (Focus.keep?_of_concerns about)
        rw [← apart.agenda] at here without
        rw [← without] at taken
        have happens := (Respects.step fits).both about taken
        simpa [CheckService.turn, happen, onlyTurn, occurring?, found, course, occurred, here,
          Focus.keep?_of_concerns about, about] using happens
      | false =>
        have gone := Focus.keep?_of_foreign about
        rw [Agenda.sift_eraseIdx_none found gone, ← apart.agenda] at taken
        have happens := (Respects.step fits).one about taken
        simpa [CheckService.turn, happen, onlyTurn, occurring?, found, course, occurred, gone, about]
          using happens

/-- A schedule, and the one where only the domain is checked. -/
theorem course (apart : Apart stage service only) (turns : List Turn)
    (known : ∀ caller inquiry, .check caller inquiry ∈ turns →
      stage.ours caller = asksFor stage.domain inquiry.domain) :
    Apart stage (service.course stage.sites turns)
        (only.course stage.sites (service.onlyTurns stage.toFocus stage.sites turns)) ∧
      only.occurred stage.sites (service.onlyTurns stage.toFocus stage.sites turns) =
        (service.occurred stage.sites turns).filter stage.concerns := by
  induction turns generalizing service only with
  | nil => exact ⟨apart, rfl⟩
  | cons turn turns ih =>
    obtain ⟨first, event⟩ := apart.turn turn fun caller inquiry this =>
      known caller inquiry (this ▸ List.mem_cons_self)
    obtain ⟨rest, events⟩ := ih first fun caller inquiry member =>
      known caller inquiry (List.mem_cons_of_mem _ member)
    rw [onlyTurns, course_append, occurred_append, event, events]
    exact ⟨rest, by rw [occurred, List.filter_append]⟩

theorem prompt (apart : Apart stage service only) (prompt : service.Prompt) : only.Prompt := by
  intro timed member
  rw [apart.agenda] at member
  obtain ⟨earlier, known, _, kept⟩ := Agenda.exists_of_mem_sift member
  obtain ⟨_, same⟩ := Option.ite_none_right_eq_some.mp kept
  rw [← Option.some.inj same]
  exact prompt earlier known

end Apart

/-! ### Running on -/

/-- The other service takes the same event next, or it is none of the domain. -/
theorem next?_of_apart {after : CheckService σ} (lags : Lags (Apart stage) service only)
    (next : service.next? stage.sites = some after) :
    Lags (Apart stage) after only ∨
      ∃ only', only.next? stage.sites = some only' ∧ Lags (Apart stage) after only' := by
  obtain ⟨⟨timed, rest⟩, found, rfl⟩ := Option.map_eq_some_iff.mp next
  have agenda : only.agenda = service.agenda.sift stage.keep? := lags.alike.agenda
  have fits : stage.Fits timed.item := lags.alike.fitting timed (Agenda.mem_of_next? found)
  have known : ∀ other ∈ rest, other ∈ service.agenda := by
    obtain ⟨before, later, split, rfl, _⟩ := Agenda.split_of_next? found
    intro other member
    rw [split]
    rcases List.mem_append.mp member with ahead | behind
    · exact List.mem_append_left _ ahead
    · exact List.mem_append_right _ (List.mem_cons_of_mem _ behind)
  have taken := (lags.alike.withAgenda known).withClock (Nat.le_max_left service.now timed.due)
  apply lags.next? agenda Apart.now found
  case skips =>
    intro gone
    have foreign : stage.concerns timed.item = false := by
      cases about : stage.concerns timed.item with
      | false => rfl
      | true => cases (Focus.keep?_of_concerns about).symm.trans gone
    obtain ⟨same, _⟩ := Agenda.sift_rest_of_next? found gone
    rw [same, ← agenda] at taken
    exact (Respects.step fits).one foreign taken
  case takes =>
    intro event kept
    obtain ⟨about, same⟩ := Option.ite_none_right_eq_some.mp kept
    cases same
    exact (Respects.step fits).both about taken

theorem Apart.run (apart : Apart stage service only) (prompt : service.Prompt) :
    Lags (Apart stage) (service.run stage.sites) (only.run stage.sites) := by
  refine (Lags.of_related apart apart.now).run next?_of_apart ?_ prompt (apart.prompt prompt)
  intro service only apart idle
  rw [apart.agenda, idle]
  rfl

theorem prompt_course (sites : CheckSites σ) (prompt : service.Prompt) (turns : List Turn) :
    (service.course sites turns).Prompt := by
  induction turns generalizing service with
  | nil => exact prompt
  | cons turn turns ih =>
    refine ih ?_
    cases turn with
    | check caller inquiry =>
      intro timed member
      rcases List.mem_append.mp member with known | added
      · exact prompt timed known
      · rw [List.mem_singleton.mp added]
        rfl
    | event place => exact prompt.perform (.event place)
    | advance | clearCache | dropToken => exact prompt

/-! ### Isolation -/

/-- Those who ask for a domain in some schedule. -/
def callersFor (domain : String) (turns : List Turn) : List Nat :=
  turns.filterMap fun
    | .check caller inquiry => if asksFor domain inquiry.domain then some caller else none
    | _ => none

/-- The domain, with those who ask for it in some schedule. -/
def focusOn (domain : String) (turns : List Turn) : Focus where
  domain
  ours caller := (callersFor domain turns).contains caller

/-- What was done for a domain is all that the other service did: what the callers were told and
when, what was sent and when, and the runs with all they took in. -/
structure SameFor (focus : Focus) (service only : CheckService σ) : Prop where
  answers : only.answers = service.answers.filter (focus.ours ·.caller)
  sent : only.sent = service.sent.filter (·.request.isAbout focus.domain)
  runs : only.runs = service.runs.filter (focus.owns ·.id)

theorem Apart.same (apart : Apart stage service only) : SameFor stage.toFocus service only :=
  ⟨apart.answers, apart.sent, apart.runs⟩

/-- What it means that a domain is checked in isolation along a schedule and afterwards. -/
structure Isolated (sites : CheckSites σ) (service : CheckService σ) (focus : Focus)
    (turns : List Turn) : Prop where
  /-- The other schedule lacks the checks of anything but the domain; time passes and the cache is
  cleared as in the one. -/
  planned : (service.onlyTurns focus sites turns).filter (!·.isEvent) =
    turns.filter (·.staysFor focus.domain)
  /-- In the other schedule everything about the domain happens in the same order, and nothing else. -/
  happened : service.occurred sites (service.onlyTurns focus sites turns) =
    (service.occurred sites turns).filter focus.concerns
  /-- After every part of the schedule, and the same part of the other one, the same was done for the
  domain, and the clocks show the same. -/
  always : ∀ earlier later, turns = earlier ++ later →
    service.onlyTurns focus sites earlier <+: service.onlyTurns focus sites turns ∧
      SameFor focus (service.course sites earlier)
          (service.course sites (service.onlyTurns focus sites earlier)) ∧
        (service.course sites (service.onlyTurns focus sites earlier)).now =
          (service.course sites earlier).now
  /-- The same was done for the domain when both services have been run to the end. -/
  run : SameFor focus ((service.course sites turns).run sites)
    ((service.course sites (service.onlyTurns focus sites turns)).run sites)

/-- With a fixed key every domain that the remote services keep apart is checked in isolation, if
whoever asks for it asks for nothing else, as it is where each check has a caller of its own. -/
theorem isolated (sites : CheckSites σ) (server : σ) {credentials : Credentials} {key : String}
    (configured : credentials.key? = some key) (lifetime : Measure) {domain : String}
    (separate : KeepsApart sites.serve server domain) {turns : List Turn}
    (loyal : ∀ caller inquiry, .check caller inquiry ∈ turns → caller ∈ callersFor domain turns →
      asksFor domain inquiry.domain = true) :
    Isolated sites (new server credentials lifetime) (focusOn domain turns) turns := by
  let stage : Stage σ := ⟨focusOn domain turns, sites, server, key, separate⟩
  have start : Apart stage (new server credentials lifetime) (new server credentials lifetime) :=
    .new stage configured lifetime
  have known : ∀ caller inquiry, .check caller inquiry ∈ turns →
      stage.ours caller = asksFor stage.domain inquiry.domain := by
    intro caller inquiry member
    rw [Bool.eq_iff_iff]
    -- Whoever asks for the domain once asks for nothing else.
    constructor
    · intro ours
      exact loyal caller inquiry member (List.contains_iff_mem.mp ours)
    · intro asks
      refine List.contains_iff_mem.mpr (List.mem_filterMap.mpr ⟨_, member, ?_⟩)
      exact if_pos asks
  constructor
  case planned => exact filter_onlyTurns turns
  case happened => exact (start.course turns known).2
  case always =>
    intro earlier later whole
    have known' : ∀ caller inquiry, .check caller inquiry ∈ earlier →
        stage.ours caller = asksFor stage.domain inquiry.domain := by
      intro caller inquiry member
      apply known caller inquiry
      rw [whole]
      exact List.mem_append_left _ member
    have apart := (start.course earlier known').1
    refine ⟨?_, apart.same, apart.now⟩
    have split := @onlyTurns_append _ sites (focusOn domain turns) (new server credentials lifetime)
      earlier later
    rw [← whole] at split
    rw [split]
    exact List.prefix_append _ _
  case run =>
    have apart := (start.course turns known).1
    have prompt := prompt_course sites (prompt_new server credentials lifetime) turns
    obtain ⟨answers, sent, runs⟩ := (apart.run prompt).alike.same
    exact ⟨answers, sent, runs⟩

/-- The usual sites, with a script of its own for every domain. -/
def scripted : CheckSites (Option String → Script) where
  serve := bySubject Script.serve
  reputation := ⟨"https://api.spamhaus.com", .ofReal Settings.spamhausTimeout⟩
  archive := ⟨Settings.availabilityUrl, .ofReal Settings.availabilityTimeout, Settings.snapshotsUrl,
    .ofReal Settings.snapshotsTimeout⟩
  epoch := 0

/-- The first lookup of a domain fails on its way. -/
def shaky : Script :=
  .ofReplies [("lookup", [⟨20, .failed .connect ""⟩, ⟨30, .answered ⟨404, []⟩⟩])]

def keyed : Credentials := ⟨some "k", none, none⟩

/-- Two domains are checked at the same time, and one of them again when the cache has been cleared. -/
def twoDomains : List Turn :=
  [.check 0 ⟨0, .text "a.example", none⟩, .check 1 ⟨0, .text "b.example", some 300⟩, .event 1, .event 0,
    .advance 20, .event 1, .clearCache, .check 2 ⟨400, .text "A.example", none⟩]

theorem isolated_twoDomains :
    keyed.key? = some "k" ∧ KeepsApart scripted.serve (fun _ => shaky) "a.example" ∧
      (∀ caller inquiry, .check caller inquiry ∈ twoDomains →
        caller ∈ callersFor "a.example" twoDomains → asksFor "a.example" inquiry.domain = true) ∧
      Isolated scripted (new (fun _ => shaky) keyed (.ofMilliseconds 900000))
        (focusOn "a.example" twoDomains) twoDomains := by
  have configured : keyed.key? = some "k" := by decide
  have separate : KeepsApart scripted.serve (fun _ => shaky) "a.example" :=
    keepsApart_bySubject Script.serve _ _
  have ours : callersFor "a.example" twoDomains = [0, 2] := by decide +kernel
  have first : asksFor "a.example" (.text "a.example") = true := by decide +kernel
  have second : asksFor "a.example" (.text "A.example") = true := by decide +kernel
  have loyal : ∀ caller inquiry, .check caller inquiry ∈ twoDomains →
      caller ∈ callersFor "a.example" twoDomains → asksFor "a.example" inquiry.domain = true := by
    intro caller inquiry member asks
    rw [ours] at asks
    simp only [twoDomains, List.mem_cons, Turn.check.injEq, reduceCtorEq, List.not_mem_nil, or_false,
      false_or] at member
    rcases member with ⟨rfl, rfl⟩ | ⟨rfl, rfl⟩ | ⟨rfl, rfl⟩
    · exact first
    · exact absurd asks (by decide)
    · exact second
  exact ⟨configured, separate, loyal, isolated scripted _ configured _ separate loyal⟩

end DomainScout.CheckService
