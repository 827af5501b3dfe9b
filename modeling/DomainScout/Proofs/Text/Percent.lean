import DomainScout.Text.Percent
import Mathlib.Tactic.IntervalCases

/-!
# What percent-encoding writes

Encoding goes character by character, leaves unreserved characters alone, and writes nothing else
but percent signs and digits.
-/
namespace DomainScout.Text

theorem percentEncode_append (s t : String) :
    percentEncode (s ++ t) = percentEncode s ++ percentEncode t := by
  simp only [percentEncode, String.toList_append, List.flatMap_append, String.ofList_append]

theorem formEncode_append (s t : String) : formEncode (s ++ t) = formEncode s ++ formEncode t := by
  simp only [formEncode, String.toList_append, List.flatMap_append, String.ofList_append]

/-- What consists of unreserved characters is encoded already. -/
theorem encode_of_unreserved {s : String} (unreserved : ∀ c ∈ s.toList, isUnreserved c = true) :
    percentEncode s = s ∧ formEncode s = s := by
  have same : ∀ {encode : Char → List Char}, (∀ c ∈ s.toList, encode c = [c]) →
      String.ofList (s.toList.flatMap encode) = s := by
    intro encode alone
    have kept : s.toList.flatMap encode = s.toList.flatMap fun c => [c] := by
      simp only [List.flatMap_def, List.map_congr_left alone]
    rw [kept, List.flatMap_singleton', String.ofList_toList]
  constructor
  · exact same fun c member => if_pos (unreserved c member)
  · exact same fun c member => if_pos (unreserved c member)

theorem isUnreserved_hexDigit {n : Nat} (small : n < 16) : isUnreserved (hexDigit n) = true := by
  interval_cases n <;> decide

/-- Everything that is written is unreserved or a percent sign. -/
theorem mem_percentEncode {s : String} {c : Char} (member : c ∈ (percentEncode s).toList) :
    isUnreserved c = true ∨ c = '%' := by
  rw [percentEncode, String.toList_ofList] at member
  obtain ⟨original, -, written⟩ := List.mem_flatMap.mp member
  split at written
  next unreserved =>
    cases List.mem_singleton.mp written
    exact .inl unreserved
  · -- Every octet is written as a percent sign and two digits.
    obtain ⟨octet, -, digits⟩ := List.mem_flatMap.mp written
    have below : octet.toNat < 256 := UInt8.toNat_lt octet
    simp only [percentOctet, List.mem_cons, List.not_mem_nil, or_false] at digits
    rcases digits with rfl | rfl | rfl
    · exact .inr rfl
    · exact .inl (isUnreserved_hexDigit (by omega))
    · exact .inl (isUnreserved_hexDigit (by omega))

end DomainScout.Text
