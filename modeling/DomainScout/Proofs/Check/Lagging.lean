import DomainScout.Proofs.Check.Work

/-!
# Services that lag behind

One service is compared with another one that has only some of the same events on its agenda. While
both are run, the other one's clock may be behind, since it stays where it is as long as nothing of
its own is due. But then it has nothing to do until the moment at which the one is, so its next
event happens at the same moment for both.

Main statements: `Lags.next?` and `Lags.run`.
-/
namespace DomainScout.CheckService

variable {σ : Type} {sites : CheckSites σ} {service other : CheckService σ}

/-! ### Running on -/

theorem next?_of_agenda {timed : Timed CheckEvent} {rest : Agenda CheckEvent}
    (found : service.agenda.next? = some (timed, rest)) :
    service.next? sites = some
      (step sites { service with agenda := rest, now := max service.now timed.due } timed.item) := by
  rw [CheckService.next?, found]
  rfl

theorem runFor_of_agenda_eq_nil (empty : service.agenda = []) (n : Nat) :
    service.runFor sites n = service := by
  cases n with
  | zero => rfl
  | succ n => simp [CheckService.runFor, CheckService.next?, empty, Agenda.next?]

theorem runFor_add (m n : Nat) :
    service.runFor sites (m + n) = (service.runFor sites m).runFor sites n := by
  induction m generalizing service with
  | zero => rw [Nat.zero_add, CheckService.runFor]
  | succ m ih =>
    rw [Nat.add_right_comm]
    cases next : service.next? sites with
    | none =>
      have empty : service.agenda = [] := Agenda.eq_nil_of_next? (Option.map_eq_none_iff.mp next)
      simp only [runFor_of_agenda_eq_nil empty]
    | some after => simpa [CheckService.runFor, next] using ih

/-- A service with nothing left to do has been run to the end. -/
theorem runFor_eq_run (prompt : service.Prompt) {n : Nat}
    (empty : (service.runFor sites n).agenda = []) : service.runFor sites n = service.run sites := by
  have ended : (service.run sites).agenda = [] := agenda_run prompt
  rw [run] at ended ⊢
  -- Both have come to an end, so whichever goes on for as long as the other gets no further.
  rw [← runFor_of_agenda_eq_nil empty service.work, ← runFor_add, Nat.add_comm, runFor_add,
    runFor_of_agenda_eq_nil ended]

/-! ### Lagging behind -/

variable {related : CheckService σ → CheckService σ → Prop}

/-- The other service is where the one is, though its clock may not have moved on since its last
event. -/
structure Lags (related : CheckService σ → CheckService σ → Prop) (service other : CheckService σ) :
    Prop where
  alike : related service { other with now := service.now }
  past : other.now ≤ service.now
  idle : ∀ timed ∈ other.agenda, service.now ≤ max other.now timed.due

namespace Lags

theorem of_related (alike : related service other) (now : other.now = service.now) :
    Lags related service other := by
  refine ⟨?_, Nat.le_of_eq now, fun timed _ => ?_⟩
  · rw [← now]
    exact alike
  · omega

/-- The other service takes the same event next, or stays where it is. -/
theorem next? {keep : CheckEvent → Option CheckEvent} {timed : Timed CheckEvent}
    {rest : Agenda CheckEvent} {after : CheckService σ} (lags : Lags related service other)
    (agenda : other.agenda = service.agenda.sift keep)
    (clock : ∀ {service other}, related service other → other.now = service.now)
    (found : service.agenda.next? = some (timed, rest))
    (skips : keep timed.item = none → related after { other with now := max service.now timed.due })
    (takes : ∀ event, keep timed.item = some event → related after
      (step sites { other with agenda := rest.sift keep, now := max service.now timed.due } event)) :
    Lags related after other ∨ ∃ next, other.next? sites = some next ∧ Lags related after next := by
  have past := lags.past
  cases becomes : keep timed.item with
  | none =>
    -- The other service has no such event, and whatever is next there is later.
    left
    obtain ⟨_, later⟩ := Agenda.sift_rest_of_next? found becomes
    have alike := skips becomes
    have moment : max service.now timed.due = after.now := clock alike
    rw [moment] at alike
    refine ⟨alike, by omega, ?_⟩
    intro event member
    have idle := lags.idle event member
    rw [agenda] at member
    have := later event member
    omega
  | some event =>
    right
    have first := Agenda.next?_sift found becomes
    rw [← agenda] at first
    -- Both clocks show the moment of the event, for the other service has been idle until then.
    have moment : max other.now timed.due = max service.now timed.due := by
      have idle := lags.idle ⟨timed.due, event⟩ (Agenda.mem_of_next? first)
      simp only at idle
      omega
    have alike := takes event becomes
    refine ⟨_, next?_of_agenda first, ?_⟩
    rw [moment]
    exact of_related alike (clock alike)

theorem runFor (lags : Lags related service other)
    (goes : ∀ {service other after}, Lags related service other → service.next? sites = some after →
      Lags related after other ∨ ∃ next, other.next? sites = some next ∧ Lags related after next)
    (n : Nat) : ∃ m, Lags related (service.runFor sites n) (other.runFor sites m) := by
  induction n generalizing service other with
  | zero => exact ⟨0, lags⟩
  | succ n ih =>
    cases next : service.next? sites with
    | none => exact ⟨0, by simpa [CheckService.runFor, next] using lags⟩
    | some after =>
      have on : service.runFor sites (n + 1) = after.runFor sites n := by simp [CheckService.runFor, next]
      rw [on]
      rcases goes lags next with stays | ⟨other', next', lags'⟩
      · exact ih stays
      · obtain ⟨m, lags''⟩ := ih lags'
        exact ⟨m + 1, by simpa [CheckService.runFor, next'] using lags''⟩

/-- When both are run to the end, the other one is where the one is, but for its clock. -/
theorem run (lags : Lags related service other)
    (goes : ∀ {service other after}, Lags related service other → service.next? sites = some after →
      Lags related after other ∨ ∃ next, other.next? sites = some next ∧ Lags related after next)
    (idle : ∀ {service other}, related service other → service.agenda = [] → other.agenda = [])
    (prompt : service.Prompt) (prompt' : other.Prompt) :
    Lags related (service.run sites) (other.run sites) := by
  obtain ⟨m, lags'⟩ := lags.runFor goes service.work
  have ended : (service.run sites).agenda = [] := agenda_run prompt
  have empty := idle lags'.alike ended
  rw [← runFor_eq_run prompt' empty]
  exact lags'

end Lags

end DomainScout.CheckService
