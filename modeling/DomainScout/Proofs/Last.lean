import Mathlib.Data.List.Basic

/-!
# What came last

A history is a list of what has happened, the latest at its end. Something came last in it if nothing
that happened later matters.

Main statement: `last_snoc`.
-/
namespace DomainScout

variable {ε : Type} {Spares : ε → Prop} {earlier history : List ε} {event next : ε}

/-- After what was earlier the history goes on with an event, and then with nothing but what spares
it. -/
def Last (Spares : ε → Prop) (earlier : List ε) (event : ε) (history : List ε) : Prop :=
  ∃ later, history = earlier ++ event :: later ∧ ∀ other ∈ later, Spares other

theorem Last.mem (last : Last Spares earlier event history) : event ∈ history := by
  obtain ⟨later, rfl, -⟩ := last
  simp

theorem not_last_nil : ¬ Last Spares earlier event [] := by
  rintro ⟨later, split, -⟩
  simp at split

/-- What happens next is itself the last, or it spares what was. -/
theorem last_snoc : Last Spares earlier event (history ++ [next]) ↔
    (earlier = history ∧ event = next) ∨ Spares next ∧ Last Spares earlier event history := by
  constructor
  · rintro ⟨later, split, spared⟩
    rcases later.eq_nil_or_concat with rfl | ⟨before, latest, rfl⟩
    · obtain ⟨same, latest⟩ := List.append_inj' split rfl
      exact .inl ⟨same.symm, (List.singleton_inj.mp latest).symm⟩
    · have shifted : history ++ [next] = (earlier ++ event :: before) ++ [latest] := by
        simpa using split
      obtain ⟨same, latest⟩ := List.append_inj' shifted rfl
      cases List.singleton_inj.mp latest
      refine .inr ⟨spared next (by simp), before, same, ?_⟩
      intro other member
      exact spared other (by simp [member])
  · rintro (⟨rfl, rfl⟩ | ⟨spares, later, rfl, spared⟩)
    · exact ⟨[], rfl, nofun⟩
    · refine ⟨later ++ [next], by simp, ?_⟩
      intro other member
      rcases List.mem_append.mp member with known | added
      · exact spared other known
      · cases List.mem_singleton.mp added
        exact spares

end DomainScout
