import DomainScout.Access.Desk

/-!
# What a desk can tell

Asking at a desk ends in one of five ways, and a turn in one of two. Every property of the desk
follows from these cases.
-/
namespace DomainScout.Desk

variable {α : Type} {desk : Desk α} {now : Int} {client : α}

/-- The ways in which asking at a desk can end. -/
inductive Asked (desk : Desk α) (now : Int) (client : α) : Direction × Desk α → Prop
  | key {key : String} (configured : desk.credentials.key? = some key) :
      Asked desk now client (.take ⟨some key, .apiKey⟩, desk)
  | missing (keyless : desk.credentials.key? = none) (anonymous : desk.credentials.login? = none) :
      Asked desk now client (.take ⟨none, .missing⟩, desk)
  | cached {token : Token} (keyless : desk.credentials.key? = none)
      (fresh : desk.fresh? now = some token) :
      Asked desk now client (.take (cached token), desk)
  | logIn {user password : String} (keyless : desk.credentials.key? = none)
      (named : desk.credentials.login? = some (user, password)) (stale : desk.fresh? now = none)
      (free : desk.busy = none) (alone : desk.waiting = []) :
      Asked desk now client (.logIn user password, { desk with busy := some client })
  | wait {user password : String} (keyless : desk.credentials.key? = none)
      (named : desk.credentials.login? = some (user, password)) (stale : desk.fresh? now = none)
      (occupied : desk.busy ≠ none ∨ desk.waiting ≠ []) :
      Asked desk now client (.wait, { desk with waiting := desk.waiting ++ [client] })

theorem asked (desk : Desk α) (now : Int) (client : α) :
    Asked desk now client (desk.ask now client) := by
  unfold ask
  split
  next key configured => exact .key configured
  next keyless anonymous => exact .missing keyless anonymous
  next user password keyless named =>
    cases fresh : desk.fresh? now with
    | some token => exact .cached keyless fresh
    | none =>
      by_cases free : desk.busy.isNone && desk.waiting.isEmpty
      · simp only [free, if_true]
        rw [Bool.and_eq_true, Option.isNone_iff_eq_none, List.isEmpty_iff] at free
        exact .logIn keyless named fresh free.1 free.2
      · simp only [free]
        refine .wait keyless named fresh ?_
        rw [Bool.and_eq_true, Option.isNone_iff_eq_none, List.isEmpty_iff] at free
        exact Decidable.not_and_iff_not_or_not.mp free

/-- A fixed key is handed out, whatever else. -/
theorem ask_of_key {key : String} (configured : desk.credentials.key? = some key) (now : Int)
    (client : α) : desk.ask now client = (.take ⟨some key, .apiKey⟩, desk) := by
  unfold ask
  rw [configured]

/-- The ways in which a turn can end. -/
inductive Turned (desk : Desk α) (now : Int) : (α × Direction) × Desk α → Prop
  | cached {next : α} {rest : List α} {token : Token} (free : desk.busy = none)
      (queue : desk.waiting = next :: rest) (fresh : desk.fresh? now = some token) :
      Turned desk now ((next, .take (cached token)), { desk with waiting := rest })
  | logIn {next : α} {rest : List α} {user password : String} (free : desk.busy = none)
      (queue : desk.waiting = next :: rest) (stale : desk.fresh? now = none)
      (named : desk.credentials.login? = some (user, password)) :
      Turned desk now
        ((next, .logIn user password), { desk with busy := some next, waiting := rest })

theorem turned {outcome : (α × Direction) × Desk α} (turn : desk.turn? now = some outcome) :
    Turned desk now outcome := by
  unfold turn? at turn
  split at turn
  next next rest free queue =>
    split at turn
    next token fresh =>
      cases turn
      exact .cached free queue fresh
    next user password stale named =>
      cases turn
      exact .logIn free queue stale named
    next => cases turn
  next => cases turn

theorem turn?_isSome (free : desk.busy = none) (queue : desk.waiting ≠ [])
    (named : desk.credentials.login?.isSome) : (desk.turn? now).isSome := by
  obtain ⟨next, rest, queued⟩ := List.exists_cons_of_ne_nil queue
  obtain ⟨login, named⟩ := Option.isSome_iff_exists.mp named
  unfold turn?
  rw [free, queued]
  cases desk.fresh? now with
  | some token => rfl
  | none =>
    rw [named]
    rfl

theorem fresh?_eq_some {token : Token} :
    desk.fresh? now = some token ↔
      desk.token = some token ∧ now < token.expiresAt - Token.margin := by
  simp only [fresh?, Option.filter_eq_some_iff, Token.isFresh, decide_eq_true_eq]

theorem fresh?_eq_none :
    desk.fresh? now = none ↔
      ∀ token, desk.token = some token → token.expiresAt - Token.margin ≤ now := by
  simp only [fresh?, Option.filter_eq_none_iff, Token.isFresh, decide_eq_true_eq, Int.not_lt]

theorem fresh?_eq_none_mono {later : Int} (passes : now ≤ later) (stale : desk.fresh? now = none) :
    desk.fresh? later = none := by
  rw [fresh?_eq_none] at stale ⊢
  intro token stored
  exact Int.le_trans (stale token stored) passes

/-! ### Serving everybody who waits -/

/-- What serving comes to: who is told something no longer waits, and somebody waits only behind a
client who was told to log in. -/
structure Told (desk : Desk α) (outcome : List (α × Direction) × Desk α) : Prop where
  credentials : outcome.2.credentials = desk.credentials
  queue : desk.waiting = outcome.1.map Prod.fst ++ outcome.2.waiting
  attended : ∀ told ∈ outcome.1, told.2 ≠ .wait
  idle : desk.credentials.login?.isSome → outcome.2.busy = none → outcome.2.waiting = []
  logsIn : ∀ client, outcome.2.busy = some client →
    ∃ user password, (client, .logIn user password) ∈ outcome.1

theorem serve_of_turn?_eq_none (n : Nat) (none : desk.turn? now = none) :
    serve now n desk = ([], desk) := by
  cases n with
  | zero => rfl
  | succ n => simp only [serve, none]

theorem told_serve {n : Nat} (free : desk.busy = none) (enough : desk.waiting.length ≤ n) :
    Told desk (serve now n desk) := by
  -- Every turn takes one client from the queue or sends it away to log in, which ends the serving.
  -- So as many turns are enough as there are clients.
  induction n generalizing desk with
  | zero =>
    have nobody : desk.waiting = [] := List.length_eq_zero_iff.mp (Nat.le_zero.mp enough)
    exact ⟨rfl, rfl, nofun, fun _ _ => nobody, fun client busy => nomatch free.symm.trans busy⟩
  | succ n ih =>
    cases turn : desk.turn? now with
    | none =>
      -- With login data, only an empty queue keeps a free desk from having a turn.
      have nobody : desk.credentials.login?.isSome → desk.waiting = [] := by
        intro named
        by_cases queue : desk.waiting = []
        · exact queue
        · have served := @turn?_isSome _ desk now free queue named
          rw [turn] at served
          cases served
      rw [serve_of_turn?_eq_none _ turn]
      exact ⟨rfl, rfl, nofun, fun named _ => nobody named,
        fun client busy => nomatch free.symm.trans busy⟩
    | some outcome =>
      have how := turned turn
      simp only [serve, turn]
      cases how with
      | @cached next rest token free queue fresh =>
        rw [queue] at enough
        have later := @ih { desk with waiting := rest } free (Nat.le_of_succ_le_succ enough)
        refine ⟨later.credentials, ?_, ?_, later.idle, ?_⟩
        · exact queue.trans (congrArg (next :: ·) later.queue)
        · intro told member
          rcases List.mem_cons.mp member with rfl | earlier
          · exact nofun
          · exact later.attended told earlier
        · intro client busy
          obtain ⟨user, password, told⟩ := later.logsIn client busy
          exact ⟨user, password, List.mem_cons_of_mem _ told⟩
      | @logIn next rest user password free queue stale named =>
        -- Who logs in keeps the others waiting.
        have stopped : turn? { desk with busy := some next, waiting := rest } now = none := rfl
        rw [serve_of_turn?_eq_none _ stopped]
        refine ⟨rfl, queue, ?_, nofun, ?_⟩
        · intro told member
          cases List.mem_singleton.mp member
          exact nofun
        · intro client busy
          cases busy
          exact ⟨user, password, List.mem_singleton.mpr rfl⟩

/-- When a login has ended, whoever still waits does so behind the next one who logs in. -/
theorem told_loggedIn (desk : Desk α) (now : Int) (token : Option Token) :
    Told (desk.close token) (desk.loggedIn now token) :=
  told_serve rfl (Nat.le_refl _)

/-! ### Desks that are in order -/

/-- Nobody waits at a desk that is free, and nobody waits in vain. -/
structure Staffed (desk : Desk α) : Prop where
  idle : desk.busy = none → desk.waiting = []
  named : desk.waiting ≠ [] → desk.credentials.login?.isSome

theorem Staffed.ask (staffed : Staffed desk) (now : Int) (client : α) :
    Staffed (desk.ask now client).2 := by
  have how := desk.asked now client
  generalize desk.ask now client = outcome at how ⊢
  cases how with
  | key | missing | cached => exact staffed
  | logIn => exact ⟨nofun, staffed.named⟩
  | wait keyless named stale occupied =>
    refine ⟨fun free => ?_, fun _ => ?_⟩
    · -- Nobody is told to wait at a free desk without a queue.
      exact absurd (occupied.resolve_left fun busy => busy free) fun queue => queue (staffed.idle free)
    · rw [named]
      rfl

/-- Who logs in after somebody has asked was told to, or logged in before. -/
theorem busy_ask {other : α} (busy : (desk.ask now client).2.busy = some other) :
    desk.busy = some other ∨
      other = client ∧ ∃ user password, (desk.ask now client).1 = .logIn user password := by
  have how := desk.asked now client
  generalize desk.ask now client = outcome at how busy ⊢
  cases how with
  | key | missing | cached | wait => exact .inl busy
  | @logIn user password =>
    cases busy
    exact .inr ⟨rfl, user, password, rfl⟩

theorem mem_waiting_ask {other : α} (waits : other ∈ desk.waiting) :
    other ∈ (desk.ask now client).2.waiting := by
  have how := desk.asked now client
  generalize desk.ask now client = outcome at how ⊢
  cases how with
  | key | missing | cached | logIn => exact waits
  | wait => exact List.mem_append_left _ waits

theorem waits_or_attended (desk : Desk α) (now : Int) (client : α) :
    client ∈ (desk.ask now client).2.waiting ∨ (desk.ask now client).1 ≠ .wait := by
  have how := desk.asked now client
  generalize desk.ask now client = outcome at how ⊢
  cases how with
  | key | missing | cached | logIn => exact .inr nofun
  | wait => exact .inl (List.mem_append_right _ (List.mem_singleton.mpr rfl))

theorem Staffed.loggedIn (staffed : Staffed desk) (now : Int) (token : Option Token) :
    Staffed (desk.loggedIn now token).2 := by
  have told := told_loggedIn desk now token
  have queue : desk.waiting = (desk.loggedIn now token).1.map Prod.fst ++
      (desk.loggedIn now token).2.waiting := told.queue
  refine ⟨fun free => ?_, fun waiting => ?_⟩
  · cases nobody : desk.waiting with
    | nil =>
      rw [nobody] at queue
      exact (List.append_eq_nil_iff.mp queue.symm).2
    | cons first rest =>
      exact told.idle (staffed.named (nobody ▸ List.cons_ne_nil _ _)) free
  · rw [told.credentials]
    refine staffed.named fun nobody => waiting ?_
    rw [nobody] at queue
    exact (List.append_eq_nil_iff.mp queue.symm).2

/-! ### What is stored -/

theorem ask_keeps (desk : Desk α) (now : Int) (client : α) :
    (desk.ask now client).2.credentials = desk.credentials ∧
      (desk.ask now client).2.token = desk.token := by
  have how := desk.asked now client
  generalize desk.ask now client = outcome at how ⊢
  cases how <;> exact ⟨rfl, rfl⟩

theorem token_serve (desk : Desk α) (now : Int) (n : Nat) :
    (desk.serve now n).2.token = desk.token := by
  induction n generalizing desk with
  | zero => rfl
  | succ n ih =>
    unfold serve
    split
    · rfl
    next told after turn =>
      -- A turn hands out the stored token or sends somebody to log in; the token stays either way.
      have kept : after.token = desk.token := by
        cases turned turn <;> rfl
      exact (ih after).trans kept

/-- When a login has ended, its token is stored, or the earlier one if it brought none. -/
theorem token_loggedIn (desk : Desk α) (now : Int) (token : Option Token) :
    (desk.loggedIn now token).2.token = token.or desk.token :=
  token_serve (desk.close token) now _

/-! ### What is handed out -/

/-- A desk hands out a fixed key, or the stored token. -/
def Offers (desk : Desk α) (text : String) : Prop :=
  desk.credentials.key? = some text ∨ ∃ token, desk.token = some token ∧ token.text = text

/-- Whatever a direction hands out has a property. -/
def Gives (P : String → Prop) : Direction → Prop
  | .take grant => ∀ text, grant.token = some text → P text
  | .logIn _ _ | .wait => True

/-- Whatever a desk has to hand out has a property. -/
structure Holds (P : String → Prop) (desk : Desk α) : Prop where
  key : ∀ key, desk.credentials.key? = some key → P key
  token : ∀ token, desk.token = some token → P token.text

theorem Offers.congr {other : Desk α} {text : String} (offers : Offers desk text)
    (credentials : other.credentials = desk.credentials) (token : other.token = desk.token) :
    Offers other text := by
  unfold Offers
  rw [credentials, token]
  exact offers

theorem holds_offers (desk : Desk α) : Holds (Offers desk) desk :=
  ⟨fun _ configured => .inl configured, fun token stored => .inr ⟨token, stored, rfl⟩⟩

namespace Holds

variable {P : String → Prop}

theorem cached (holds : Holds P desk) {token : Token} (fresh : desk.fresh? now = some token) :
    Gives P (.take (cached token)) := by
  intro text handed
  cases handed
  exact holds.token token (fresh?_eq_some.mp fresh).1

theorem ask (holds : Holds P desk) (now : Int) (client : α) :
    Gives P (desk.ask now client).1 ∧ Holds P (desk.ask now client).2 := by
  have how := desk.asked now client
  generalize desk.ask now client = outcome at how ⊢
  cases how with
  | key configured =>
    refine ⟨?_, holds⟩
    intro text handed
    cases handed
    exact holds.key _ configured
  | missing => exact ⟨nofun, holds⟩
  | cached _ fresh => exact ⟨holds.cached fresh, holds⟩
  | logIn | wait => exact ⟨trivial, holds.key, holds.token⟩

theorem serve (holds : Holds P desk) (now : Int) (n : Nat) :
    (∀ told ∈ (desk.serve now n).1, Gives P told.2) ∧ Holds P (desk.serve now n).2 := by
  -- A turn hands out the stored token or nothing, and stores nothing.
  induction n generalizing desk with
  | zero => exact ⟨nofun, holds⟩
  | succ n ih =>
    unfold Desk.serve
    split
    · exact ⟨nofun, holds⟩
    next told after turn =>
      have both : Gives P told.2 ∧ Holds P after := by
        cases turned turn with
        | cached _ _ fresh => exact ⟨holds.cached fresh, holds.key, holds.token⟩
        | logIn => exact ⟨trivial, holds.key, holds.token⟩
      obtain ⟨later, holds'⟩ := ih both.2
      refine ⟨?_, holds'⟩
      intro other member
      rcases List.mem_cons.mp member with rfl | rest
      · exact both.1
      · exact later other rest

/-- When a login has ended, the desk hands out what it had, and the token of the login. -/
theorem loggedIn (holds : Holds P desk) (now : Int) {token : Option Token}
    (given : ∀ gained, token = some gained → P gained.text) :
    (∀ told ∈ (desk.loggedIn now token).1, Gives P told.2) ∧ Holds P (desk.loggedIn now token).2 := by
  have closed : Holds P (desk.close token) := by
    refine ⟨holds.key, ?_⟩
    intro stored kept
    cases token with
    | some gained => exact given stored kept
    | none => exact holds.token stored kept
  exact closed.serve now _

end Holds

end DomainScout.Desk
