import DomainScout.Proofs.Remote.Attempt

/-!
# Requests about one domain

Remote services keep a domain apart if what they reply about it would have been the same without
any request about other domains. Two services that were asked the same about such a domain, the one
among much else and the other nothing else, are twins: they reply the same about the domain from
then on, and whatever else the one is asked, they stay twins.

Main statements: `Twins.attempt` and `Twins.attempt_other`.
-/
namespace DomainScout.Remote

/-- The request is about a domain. -/
def Request.isAbout (domain : String) (request : Request) : Bool := request.subject == some domain

variable {σ : Type} {serve : Server σ} {start server only : σ} {domain : String} {plan : Plan}

/-- The services after some requests. -/
def afterwards (serve : Server σ) (server : σ) (requests : List Request) : σ :=
  requests.foldl (fun server request => (serve server request).2) server

/-- Some requests made one after another, and what the services reply to them. -/
def replies (serve : Server σ) (server : σ) : List Request → List (Request × Reply)
  | [] => []
  | request :: requests =>
    (request, (serve server request).1) :: replies serve (serve server request).2 requests

/-- What is replied about a domain is the same if only the requests about it are made. Every request
is taken to be about some domain. -/
def KeepsApart (serve : Server σ) (server : σ) (domain : String) : Prop :=
  ∀ requests : List Request, (∀ request ∈ requests, request.subject.isSome) →
    (replies serve server requests).filter (·.1.isAbout domain) =
      replies serve server (requests.filter (·.isAbout domain))

theorem replies_append (requests more : List Request) :
    replies serve server (requests ++ more) =
      replies serve server requests ++ replies serve (afterwards serve server requests) more := by
  induction requests generalizing server with
  | nil => rfl
  | cons request requests ih =>
    rw [List.cons_append, replies, replies, ih, List.cons_append]
    rfl

theorem subjects_concat {requests : List Request} {request : Request} {about : String}
    (subjects : ∀ other ∈ requests, other.subject.isSome) (subject : request.subject = some about) :
    ∀ other ∈ requests ++ [request], other.subject.isSome := by
  intro other member
  rcases List.mem_append.mp member with earlier | last
  · exact subjects other earlier
  · rw [List.mem_singleton.mp last, subject]
    rfl

theorem afterwards_concat (requests : List Request) (request : Request) :
    afterwards serve server (requests ++ [request]) =
      (serve (afterwards serve server requests) request).2 := by
  simp [afterwards]

/-- Both services were asked the same about a domain, and the one of them nothing else. -/
def Twins (serve : Server σ) (start : σ) (domain : String) (server only : σ) : Prop :=
  ∃ requests : List Request, (∀ request ∈ requests, request.subject.isSome) ∧
    server = afterwards serve start requests ∧
      only = afterwards serve start (requests.filter (·.isAbout domain))

namespace Twins

theorem refl (serve : Server σ) (start : σ) (domain : String) : Twins serve start domain start start :=
  ⟨[], by simp, rfl, rfl⟩

variable (twins : Twins serve start domain server only) {request : Request}
include twins

/-- A request about the domain is replied to by both, with the same. -/
theorem reply (apart : KeepsApart serve start domain) (about : request.subject = some domain) :
    (serve only request).1 = (serve server request).1 := by
  obtain ⟨requests, subjects, rfl, rfl⟩ := twins
  have mine : request.isAbout domain = true := by simp [Request.isAbout, about]
  -- Before the request the replies about the domain were the same, and they still are with it.
  have before := apart requests subjects
  have then_ := apart (requests ++ [request]) (subjects_concat subjects about)
  simp only [replies_append, List.filter_append, before] at then_
  have last := List.append_cancel_left then_
  simp only [replies, List.filter_cons, mine, if_true, List.filter_nil, List.cons.injEq, Prod.mk.injEq,
    true_and, and_true] at last
  exact last.symm

theorem serve_both (about : request.subject = some domain) :
    Twins serve start domain (serve server request).2 (serve only request).2 := by
  obtain ⟨requests, subjects, rfl, rfl⟩ := twins
  have mine : request.isAbout domain = true := by simp [Request.isAbout, about]
  refine ⟨requests ++ [request], subjects_concat subjects about, (afterwards_concat _ _).symm, ?_⟩
  simp [List.filter_append, mine, afterwards_concat]

theorem serve_one {other : String} (about : request.subject = some other) (apart : other ≠ domain) :
    Twins serve start domain (serve server request).2 only := by
  obtain ⟨requests, subjects, rfl, rfl⟩ := twins
  have foreign : request.isAbout domain = false := by simp [Request.isAbout, about, apart]
  refine ⟨requests ++ [request], subjects_concat subjects about, (afterwards_concat _ _).symm, ?_⟩
  simp [List.filter_append, foreign]

end Twins

/-- Services that keep a state of their own for every subject. -/
def bySubject (serve : Server σ) : Server (Option String → σ) := fun states request =>
  let (reply, state) := serve (states request.subject) request
  (reply, fun subject => if subject = request.subject then state else states subject)

/-- Such services keep every domain apart. -/
theorem keepsApart_bySubject (serve : Server σ) (states : Option String → σ) (domain : String) :
    KeepsApart (bySubject serve) states domain := by
  -- Replies about the domain depend on no more than the state that is kept for it.
  have replied (requests : List Request) (states own : Option String → σ)
      (same : states (some domain) = own (some domain)) :
      (replies (bySubject serve) states requests).filter (·.1.isAbout domain) =
        replies (bySubject serve) own (requests.filter (·.isAbout domain)) := by
    induction requests generalizing states own with
    | nil => rfl
    | cons request requests ih =>
      rw [replies, List.filter_cons, List.filter_cons]
      cases about : request.isAbout domain with
      | true =>
        have subject : request.subject = some domain := eq_of_beq about
        have reply : (bySubject serve own request).1 = (bySubject serve states request).1 := by
          simp [bySubject, subject, same]
        simp only [if_true, replies, reply]
        rw [ih _ (bySubject serve own request).2 (by simp [bySubject, subject, same])]
      | false =>
        have foreign : some domain ≠ request.subject := fun this => by
          simp [Request.isAbout, ← this] at about
        simp only [Bool.false_eq_true, if_false]
        exact ih _ own (by simp [bySubject, foreign, same])
  exact fun requests _ => replied requests states states rfl

/-! ### Attempts -/

theorem Plan.subject_of_sent {sent : Sent} {now : Nat}
    (member : sent ∈ (plan.attempt serve server now).sent) : sent.request.subject = plan.subject := by
  rcases plan.attempt_cases serve now with ⟨outcome, same⟩ | ⟨request, limit, planned, same⟩
  · simp [same] at member
  · rw [same, sent_send, List.mem_singleton] at member
    rw [member]
    exact (Plan.of_request planned).2

namespace Twins

variable (twins : Twins serve start domain server only)
include twins

/-- An attempt about the domain is the same for both. -/
theorem attempt (apart : KeepsApart serve start domain) (about : plan.subject = some domain)
    (now : Nat) :
    (plan.attempt serve only now).sent = (plan.attempt serve server now).sent ∧
      (plan.attempt serve only now).endsAt = (plan.attempt serve server now).endsAt ∧
        (plan.attempt serve only now).outcome = (plan.attempt serve server now).outcome ∧
          Twins serve start domain (plan.attempt serve server now).server
            (plan.attempt serve only now).server := by
  rcases plan.attempt_cases serve now with ⟨outcome, same⟩ | ⟨request, limit, planned, same⟩
  · rw [same, same]
    exact ⟨rfl, rfl, rfl, twins⟩
  · have subject : request.subject = some domain := (Plan.of_request planned).2.trans about
    have told := twins.reply apart subject
    rw [same, same, send_of_reply told, server_send]
    exact ⟨rfl, rfl, rfl, twins.serve_both subject⟩

theorem attempt_other {other : String} (about : plan.subject = some other) (foreign : other ≠ domain)
    (now : Nat) : Twins serve start domain (plan.attempt serve server now).server only := by
  rcases plan.attempt_cases serve now with ⟨outcome, same⟩ | ⟨request, limit, planned, same⟩
  · rw [same]
    exact twins
  · rw [same, server_send]
    exact twins.serve_one ((Plan.of_request planned).2.trans about) foreign

end Twins

end DomainScout.Remote
