import DomainScout.Check.Service.Basic
import DomainScout.Proofs.Host
import DomainScout.Proofs.Url.Extension

/-!
# Requests that can be sent

A request about a host can be sent when the sites have absolute addresses, the host leaves room in
them, and the token fits into a header.

Main statements: `CheckSites.Usable.reaches`, and `CheckSites.hasRoom_of_length_le`, only very long
hosts leave none.
-/
namespace DomainScout

open Remote

/-- The credentials of a plan can be sent, and there is a URL for its request to go to. -/
theorem Remote.Plan.request_of_isAbsolute {plan : Plan} {url : Url} (reads : Url.read plan.address = .ok url)
    (absolute : url.isAbsolute = true) (sendable : plan.authorization.all Plan.sendable = true)
    (form : ∃ other, url.withForm plan.form = .ok other ∧ other.scheme = url.scheme) :
    ∃ request, plan.request = .ok request ∧ request.url.scheme ≠ "" := by
  obtain ⟨other, filled, scheme⟩ := form
  have named : url.scheme ≠ "" := by
    simp only [Url.isAbsolute, Bool.and_eq_true, bne_iff_ne] at absolute
    exact absolute.1
  unfold Plan.request
  simp only [reads, sendable, filled, Url.target_of_isAbsolute absolute, Except.bind, Except.mapError, bind,
    Bool.not_true, pure, Except.pure, Bool.false_eq_true, if_false]
  exact ⟨_, rfl, scheme ▸ named⟩

/-- Whoever sends to a URL with a scheme takes the answer. -/
theorem Remote.Request.received_of_scheme {request : Request} (named : request.url.scheme ≠ "")
    (ending : Ending) : request.received ending = ending := by
  cases ending with
  | answered response => exact if_neg named
  | failed | crashed => rfl

/-- What an attempt comes to that can be made: nothing in time, or how the service ends it. -/
theorem Remote.Plan.outcome_of_attempt {σ : Type} {plan : Plan} {request : Request}
    (planned : plan.request = .ok request) (named : request.url.scheme ≠ "")
    (limited : ∀ fault, plan.timeout.limit ≠ .unusable fault) (serve : Server σ) (server : σ) (now : Nat) :
    (plan.attempt serve server now).outcome = .overdue ∨
      (plan.attempt serve server now).outcome = .ended (serve server request).1.ending := by
  unfold Plan.attempt
  split
  · exact .inl rfl
  next fault unusable => exact absurd unusable (limited fault)
  · rw [planned]
    unfold Request.send
    simp only
    split
    · exact .inr (congrArg Outcome.ended (Request.received_of_scheme named _))
    · exact .inl rfl

/-- A number of seconds is a limit. -/
theorem Remote.Timeout.ofReal_ne_unusable (seconds : Binary64) (fault : NumberFault) :
    (Timeout.ofReal seconds).limit ≠ .unusable fault := by
  change Limit.ofReal seconds ≠ _
  unfold Limit.ofReal
  split
  · exact nofun
  · split <;> exact nofun
  · split <;> exact nofun

/-- What an errand carries can be sent. -/
def Errand.Sendable : Errand → Prop
  | .lookup token => Plan.sendable token = true
  | _ => True

namespace CheckSites

variable {σ : Type} {sites : CheckSites σ} {host : String}

/-- Whatever a run of a host sends gets to somebody. -/
def Reaches (sites : CheckSites σ) (host : String) : Prop :=
  ∀ errand : Errand, errand.Sendable →
    ∃ request, (sites.plan host errand).request = .ok request ∧ request.url.scheme ≠ ""

/-- The sites have absolute addresses, and limits that are numbers of seconds. -/
structure Usable (sites : CheckSites σ) : Prop where
  reputation : ∃ url, Url.read sites.reputation.base = .ok url ∧ url.isAbsolute = true
  availability : ∃ url, Url.read sites.archive.availabilityUrl = .ok url ∧ url.isAbsolute = true ∧
    url.path.length ≤ Url.maxLength
  snapshots : ∃ url, Url.read sites.archive.snapshotsUrl = .ok url ∧ url.isAbsolute = true ∧
    url.path.length ≤ Url.maxLength
  limits : ∀ host errand fault, (sites.plan host errand).timeout.limit ≠ .unusable fault

/-- The host leaves room for the rest of the addresses and queries that it is put into. -/
def HasRoom (sites : CheckSites σ) (host : String) : Prop :=
  ∀ errand, (sites.plan host errand).address.length ≤ Url.maxLength ∧
    (Url.formText (sites.plan host errand).form).length ≤ Url.maxLength

/-- Usable sites are reached about every host that leaves room. -/
theorem Usable.reaches (usable : sites.Usable) (room : sites.HasRoom host) : sites.Reaches host := by
  intro errand sendable
  obtain ⟨address, query⟩ := room errand
  cases errand with
  | logIn user password =>
    obtain ⟨url, based, absolute⟩ := usable.reputation
    have fits : sites.reputation.base.length + Reputation.loginPath.length ≤ Url.maxLength := by
      rw [← String.length_append]
      exact address
    have printable := @Url.printable_of_all Reputation.loginPath (by decide)
    obtain ⟨other, longer, absolute'⟩ := Url.read_append based absolute rfl printable fits
    exact Plan.request_of_isAbsolute longer absolute' rfl ⟨other, rfl, rfl⟩
  | lookup token =>
    obtain ⟨url, based, absolute⟩ := usable.reputation
    let path := Reputation.lookupPath ++ Text.percentEncode host
    have whole : sites.reputation.base ++ Reputation.lookupPath ++ Text.percentEncode host =
        sites.reputation.base ++ path := String.append_assoc
    have fits : sites.reputation.base.length + path.length ≤ Url.maxLength := by
      rw [← String.length_append, ← whole]
      exact address
    have printable : ∀ c ∈ path.toList, Url.isAsciiControl c = false := by
      intro c member
      rw [String.toList_append] at member
      rcases List.mem_append.mp member with fixed | encoded
      · exact @Url.printable_of_all Reputation.lookupPath (by decide) c fixed
      · exact Url.isAsciiControl_of_encoded (Text.mem_percentEncode encoded)
    have starts : path.toList.head? = some '/' := by
      rw [String.toList_append]
      rfl
    obtain ⟨other, longer, absolute'⟩ := Url.read_append based absolute starts printable fits
    have header : Plan.sendable ("Bearer " ++ token) = true := by
      unfold Plan.sendable
      rw [String.toList_append, List.all_append]
      exact sendable
    rw [← whole] at longer
    exact Plan.request_of_isAbsolute longer absolute' header ⟨other, rfl, rfl⟩
  | availability =>
    obtain ⟨url, based, absolute, path⟩ := usable.availability
    exact Plan.request_of_isAbsolute based absolute rfl (Url.withForm_of_length_le path query)
  | snapshots =>
    obtain ⟨url, based, absolute, path⟩ := usable.snapshots
    exact Plan.request_of_isAbsolute based absolute rfl (Url.withForm_of_length_le path query)

/-- Encoding adds little to a host. -/
theorem encoded_length_le {v : Value} (reads : Host.ofValue v = .ok host) :
    (Text.percentEncode host).length ≤ host.length + 2 ∧ (Text.formEncode host).length ≤ host.length + 2 := by
  obtain ⟨name, unreserved, rfl | rfl⟩ := Host.spelling_of_ofValue reads
  · rw [(Text.encode_of_unreserved unreserved).1, (Text.encode_of_unreserved unreserved).2]
    exact ⟨Nat.le_add_right _ _, Nat.le_add_right _ _⟩
  · have feed : Text.percentEncode "\n" = "%0A" ∧ Text.formEncode "\n" = "%0A" := by decide +kernel
    rw [Text.percentEncode_append, Text.formEncode_append, (Text.encode_of_unreserved unreserved).1,
      (Text.encode_of_unreserved unreserved).2, feed.1, feed.2]
    simp only [String.length_append]
    exact ⟨Nat.le_refl _, Nat.le_refl _⟩

/-- Every host leaves room that is not tens of thousands of characters long. -/
theorem hasRoom_of_length_le {v : Value} (reads : Host.ofValue v = .ok host)
    (short : sites.reputation.base.length + host.length + 64 ≤ Url.maxLength)
    (availability : sites.archive.availabilityUrl.length ≤ Url.maxLength)
    (snapshots : sites.archive.snapshotsUrl.length ≤ Url.maxLength) : sites.HasRoom host := by
  obtain ⟨percent, form⟩ := encoded_length_le reads
  intro errand
  cases errand with
  | logIn user password =>
    refine ⟨?_, Nat.zero_le _⟩
    have path : Reputation.loginPath.length = 13 := rfl
    change (sites.reputation.base ++ Reputation.loginPath).length ≤ _
    rw [String.length_append]
    omega
  | lookup token =>
    refine ⟨?_, Nat.zero_le _⟩
    have path : Reputation.lookupPath.length = 30 := rfl
    change (sites.reputation.base ++ Reputation.lookupPath ++ Text.percentEncode host).length ≤ _
    simp only [String.length_append]
    omega
  | availability =>
    refine ⟨availability, ?_⟩
    have scheme : Text.formEncode "http://" = "http%3A%2F%2F" := by decide +kernel
    have fixed : "url".length + "=".length + "http%3A%2F%2F".length = 17 := rfl
    change ("url" ++ "=" ++ Text.formEncode ("http://" ++ host)).length ≤ _
    rw [Text.formEncode_append, scheme]
    simp only [String.length_append]
    omega
  | snapshots =>
    refine ⟨snapshots, ?_⟩
    have fixed : ("&" ++ ("matchType" ++ "=" ++ Text.formEncode "exact")).length +
        ("&" ++ ("output" ++ "=" ++ Text.formEncode "json")).length +
        ("&" ++ ("fl" ++ "=" ++ Text.formEncode "timestamp")).length +
        ("&" ++ ("limit" ++ "=" ++ Text.formEncode "10000")).length = 53 := by decide +kernel
    have named : "url".length + "=".length = 4 := rfl
    change ("url" ++ "=" ++ Text.formEncode host ++ "&" ++ _ ++ "&" ++ _ ++ "&" ++ _ ++ "&" ++ _).length ≤ _
    simp only [String.length_append] at fixed ⊢
    omega

end CheckSites

end DomainScout
