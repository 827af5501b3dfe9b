import DomainScout.Access.Session
import DomainScout.Proofs.Access.Desk

/-!
# What happens around a token desk

Clients ask, wait for their turn, are away to log in and come back in any order. Time passes, and
the stored token may be dropped at any moment, also between the end of a login and the next turn.
A lobby is a desk with its clock, those who are away, and a record of all that happened.

Main statement: `token_lifecycle`.
-/
namespace DomainScout.Access

variable {α : Type}

/-- What can happen around a desk. -/
inductive Incident (α : Type) where
  | ask (client : α)
  /-- Whoever waits first has a turn, if nobody is away. -/
  | turn
  /-- Someone comes back from a login. -/
  | loginEnds (client : α) (result : Except String Fields)
  | drop
  | pass (milliseconds : Nat)

/-- What a record tells. -/
inductive Entry (α : Type) where
  | told (client : α) (direction : Direction)
  | loggedIn (client : α) (token : Token)
  | loginFailed (client : α)
  | dropped
  deriving DecidableEq

/-- The entry tells of a login. -/
def Entry.aboutLogin : Entry α → Bool
  | .told _ (.logIn _ _) | .loggedIn _ _ | .loginFailed _ => true
  | _ => false

/-- An entry and its moment, on the clock of the desk. -/
structure Noted (α : Type) where
  moment : Int
  entry : Entry α

/-- A desk and what goes on around it. -/
structure Lobby (α : Type) where
  desk : Desk α
  now : Int
  /-- Who was told to log in and is not back. -/
  away : List α
  /-- What happened so far, the latest first. -/
  record : List (Noted α)

/-- The token of the latest login that succeeded, unless it was dropped later. -/
def storedBy : List (Noted α) → Option Token
  | [] => none
  | ⟨_, .loggedIn _ token⟩ :: _ => some token
  | ⟨_, .dropped⟩ :: _ => none
  | _ :: older => storedBy older

/-- The token that a login gives, if it succeeds. -/
def tokenOf (result : Except String Fields) (now : Int) : Option Token :=
  match result with
  | .ok data => (Token.ofLogin data now).toOption
  | .error _ => none

namespace Lobby

/-- A lobby that nobody has entered. -/
def empty (credentials : Credentials) (now : Int) : Lobby α := ⟨.new credentials, now, [], []⟩

/-- Note what happens now. -/
def note (lobby : Lobby α) (entry : Entry α) : Lobby α :=
  { lobby with record := ⟨lobby.now, entry⟩ :: lobby.record }

/-- Tell a client where to go. -/
def tell (lobby : Lobby α) (client : α) (direction : Direction) : Lobby α :=
  let away := match direction with
    | .logIn _ _ => client :: lobby.away
    | _ => lobby.away
  { lobby.note (.told client direction) with away }

/-- A client asks. -/
def ask (lobby : Lobby α) (client : α) : Lobby α :=
  let (direction, desk) := lobby.desk.ask lobby.now client
  { lobby with desk }.tell client direction

/-- Whoever waits first has a turn. -/
def turn (lobby : Lobby α) : Lobby α :=
  match lobby.desk.turn? lobby.now with
  | some ((client, direction), desk) => { lobby with desk }.tell client direction
  | none => lobby

/-- What the end of a login is noted as. -/
def loginEntry (client : α) : Option Token → Entry α
  | some token => .loggedIn client token
  | none => .loginFailed client

section Perform

variable [DecidableEq α]

/-- Someone comes back from a login. -/
def comeBack (lobby : Lobby α) (client : α) (result : Except String Fields) : Lobby α :=
  if client ∈ lobby.away then
    let token := tokenOf result lobby.now
    { lobby.note (loginEntry client token) with
      desk := lobby.desk.close token
      away := lobby.away.erase client }
  else lobby

/-- What an incident does. -/
def perform (lobby : Lobby α) : Incident α → Lobby α
  | .ask client => lobby.ask client
  | .turn => lobby.turn
  | .loginEnds client result => lobby.comeBack client result
  | .drop => { lobby.note .dropped with desk := lobby.desk.invalidate }
  | .pass milliseconds => { lobby with now := lobby.now + milliseconds }

/-- A lobby after some incidents. -/
def after (lobby : Lobby α) (incidents : List (Incident α)) : Lobby α :=
  incidents.foldl perform lobby

end Perform

/-! ### What holds in every lobby -/

/-- Login data are configured, and no key. -/
def LogsIn (credentials : Credentials) : Prop :=
  credentials.key? = none ∧ credentials.login? ≠ none

/-- What the desk knows agrees with what happened. -/
structure Orderly (lobby : Lobby α) : Prop where
  away_eq : lobby.away = lobby.desk.busy.toList
  token_eq : lobby.desk.token = storedBy lobby.record
  stale : lobby.desk.busy ≠ none → lobby.desk.fresh? lobby.now = none
  logsIn_of_busy : lobby.desk.busy ≠ none → LogsIn lobby.desk.credentials
  logsIn_of_waiting : lobby.desk.waiting ≠ [] → LogsIn lobby.desk.credentials
  logsIn_of_record : ∀ noted ∈ lobby.record, noted.entry.aboutLogin → LogsIn lobby.desk.credentials

/-- An entry was right when it was noted: whoever was sent to log in found no fresh token, and
whoever got a stored token got the right one while it was fresh. -/
def Justified (stored : Option Token) (moment : Int) : Entry α → Prop
  | .told _ (.logIn _ _) => ∀ token, stored = some token → token.expiresAt - Token.margin ≤ moment
  | .told _ (.take grant) =>
    grant.source = .cachedLogin →
      ∃ token, stored = some token ∧ grant.token = some token.text ∧
        moment < token.expiresAt - Token.margin
  | _ => True

/-- Every entry of a record was right. -/
def AllJustified : List (Noted α) → Prop
  | [] => True
  | noted :: older => Justified (storedBy older) noted.moment noted.entry ∧ AllJustified older

theorem AllJustified.at {record newer older : List (Noted α)} {noted : Noted α}
    (all : AllJustified record) (place : record = newer ++ noted :: older) :
    Justified (storedBy older) noted.moment noted.entry := by
  -- Every entry is judged by the entries before it, so newer ones do not matter.
  subst place
  induction newer with
  | nil => exact all.1
  | cons _ newer ih => exact ih all.2

/-! ### What an incident preserves -/

section Preserve

variable {lobby : Lobby α}

theorem Orderly.empty (credentials : Credentials) (now : Int) :
    Orderly (Lobby.empty (α := α) credentials now) where
  away_eq := rfl
  token_eq := rfl
  stale busy := absurd rfl busy
  logsIn_of_busy busy := absurd rfl busy
  logsIn_of_waiting waiting := absurd rfl waiting
  logsIn_of_record _ member := absurd member List.not_mem_nil

theorem logsIn_of_named {credentials : Credentials} {user password : String}
    (keyless : credentials.key? = none) (named : credentials.login? = some (user, password)) :
    LogsIn credentials :=
  ⟨keyless, by rw [named]; exact Option.some_ne_none _⟩

theorem Orderly.noting (orderly : Orderly lobby) {entry : Entry α}
    (logsIn : entry.aboutLogin → LogsIn lobby.desk.credentials) :
    ∀ noted ∈ (lobby.note entry).record, noted.entry.aboutLogin → LogsIn lobby.desk.credentials := by
  intro noted member about
  rcases List.mem_cons.mp member with rfl | older
  · exact logsIn about
  · exact orderly.logsIn_of_record noted older about

theorem Orderly.ask (orderly : Orderly lobby) (client : α) : Orderly (lobby.ask client) := by
  have ended := lobby.desk.asked lobby.now client
  unfold Lobby.ask
  generalize lobby.desk.ask lobby.now client = outcome at ended ⊢
  cases ended with
  | key | missing | cached =>
    exact ⟨orderly.away_eq, orderly.token_eq, orderly.stale, orderly.logsIn_of_busy,
      orderly.logsIn_of_waiting, orderly.noting nofun⟩
  | logIn keyless named stale free alone =>
    -- Whoever leaves to log in is the only one away, since the desk was free.
    have nobody : lobby.away = [] := by rw [orderly.away_eq, free]; rfl
    exact {
      away_eq := congrArg (_ :: ·) nobody
      token_eq := orderly.token_eq
      stale := fun _ => stale
      logsIn_of_busy := fun _ => logsIn_of_named keyless named
      logsIn_of_waiting := fun _ => logsIn_of_named keyless named
      logsIn_of_record := orderly.noting fun _ => logsIn_of_named keyless named }
  | wait keyless named =>
    exact {
      away_eq := orderly.away_eq
      token_eq := orderly.token_eq
      stale := orderly.stale
      logsIn_of_busy := orderly.logsIn_of_busy
      logsIn_of_waiting := fun _ => logsIn_of_named keyless named
      logsIn_of_record := orderly.noting nofun }

theorem Orderly.turn (orderly : Orderly lobby) : Orderly lobby.turn := by
  unfold Lobby.turn
  cases turn : lobby.desk.turn? lobby.now with
  | none => exact orderly
  | some outcome =>
    cases Desk.turned turn with
    | cached free queue fresh =>
      -- Only clients of a desk that logs in ever wait.
      have logsIn : LogsIn lobby.desk.credentials :=
        orderly.logsIn_of_waiting (by rw [queue]; exact List.cons_ne_nil _ _)
      exact {
        away_eq := orderly.away_eq
        token_eq := orderly.token_eq
        stale := fun busy => absurd free busy
        logsIn_of_busy := fun _ => logsIn
        logsIn_of_waiting := fun _ => logsIn
        logsIn_of_record := orderly.noting fun _ => logsIn }
    | logIn free queue stale named =>
      have logsIn : LogsIn lobby.desk.credentials :=
        orderly.logsIn_of_waiting (by rw [queue]; exact List.cons_ne_nil _ _)
      have nobody : lobby.away = [] := by rw [orderly.away_eq, free]; rfl
      exact {
        away_eq := congrArg (_ :: ·) nobody
        token_eq := orderly.token_eq
        stale := fun _ => stale
        logsIn_of_busy := fun _ => logsIn
        logsIn_of_waiting := fun _ => logsIn
        logsIn_of_record := orderly.noting fun _ => logsIn }

/-- Whoever is away is the one who logs in. -/
theorem Orderly.away_of_mem (orderly : Orderly lobby) {client : α} (member : client ∈ lobby.away) :
    lobby.away = [client] ∧ lobby.desk.busy = some client := by
  have away := orderly.away_eq
  cases busy : lobby.desk.busy with
  | none =>
    rw [away, busy] at member
    cases member
  | some other =>
    rw [busy] at away
    rw [away] at member
    cases List.mem_singleton.mp member
    exact ⟨away, rfl⟩

/-! Only asking and turns note what has to be right, and the desk looks at the stored token first. -/

theorem Orderly.no_stored_of_stale (orderly : Orderly lobby)
    (stale : lobby.desk.fresh? lobby.now = none) (token : Token)
    (stored : storedBy lobby.record = some token) : token.expiresAt - Token.margin ≤ lobby.now := by
  rw [← orderly.token_eq] at stored
  exact Desk.fresh?_eq_none.mp stale token stored

theorem Orderly.stored_of_fresh (orderly : Orderly lobby) {token : Token}
    (fresh : lobby.desk.fresh? lobby.now = some token) :
    ∃ stored, storedBy lobby.record = some stored ∧ some token.text = some stored.text ∧
      lobby.now < stored.expiresAt - Token.margin := by
  obtain ⟨stored, early⟩ := Desk.fresh?_eq_some.mp fresh
  rw [← orderly.token_eq]
  exact ⟨token, stored, rfl, early⟩

theorem AllJustified.ask (all : AllJustified lobby.record) (orderly : Orderly lobby) (client : α) :
    AllJustified (lobby.ask client).record := by
  have ended := lobby.desk.asked lobby.now client
  unfold Lobby.ask
  generalize lobby.desk.ask lobby.now client = outcome at ended ⊢
  cases ended with
  | key | missing =>
    refine ⟨?_, all⟩
    intro cached
    cases cached
  | cached _ fresh => exact ⟨fun _ => orderly.stored_of_fresh fresh, all⟩
  | logIn _ _ stale => exact ⟨orderly.no_stored_of_stale stale, all⟩
  | wait => exact ⟨trivial, all⟩

theorem AllJustified.turn (all : AllJustified lobby.record) (orderly : Orderly lobby) :
    AllJustified lobby.turn.record := by
  unfold Lobby.turn
  cases turn : lobby.desk.turn? lobby.now with
  | none => exact all
  | some outcome =>
    cases Desk.turned turn with
    | cached _ _ fresh => exact ⟨fun _ => orderly.stored_of_fresh fresh, all⟩
    | logIn _ _ stale => exact ⟨orderly.no_stored_of_stale stale, all⟩

theorem ask_credentials (lobby : Lobby α) (client : α) :
    (lobby.ask client).desk.credentials = lobby.desk.credentials := by
  have ended := lobby.desk.asked lobby.now client
  unfold ask
  generalize lobby.desk.ask lobby.now client = outcome at ended ⊢
  cases ended <;> rfl

theorem turn_credentials (lobby : Lobby α) :
    lobby.turn.desk.credentials = lobby.desk.credentials := by
  unfold turn
  cases turn : lobby.desk.turn? lobby.now with
  | none => rfl
  | some outcome => cases Desk.turned turn <;> rfl

variable [DecidableEq α]

theorem Orderly.comeBack_eq (orderly : Orderly lobby) {client : α} (member : client ∈ lobby.away)
    (result : Except String Fields) :
    lobby.comeBack client result =
      { lobby.note (loginEntry client (tokenOf result lobby.now)) with
        desk := lobby.desk.close (tokenOf result lobby.now)
        away := [] } := by
  rw [Lobby.comeBack, if_pos member, (orderly.away_of_mem member).1, List.erase_cons_head]

theorem Orderly.comeBack (orderly : Orderly lobby) (client : α) (result : Except String Fields) :
    Orderly (lobby.comeBack client result) := by
  by_cases member : client ∈ lobby.away
  · have busy : lobby.desk.busy ≠ none := by
      rw [(orderly.away_of_mem member).2]
      exact Option.some_ne_none _
    -- The desk is free afterwards, and only a login that succeeded has changed what is stored.
    rw [orderly.comeBack_eq member]
    exact {
      away_eq := rfl
      token_eq := by
        cases tokenOf result lobby.now with
        | none => exact orderly.token_eq
        | some token => rfl
      stale := fun away => absurd rfl away
      logsIn_of_busy := fun away => absurd rfl away
      logsIn_of_waiting := orderly.logsIn_of_waiting
      logsIn_of_record := orderly.noting fun _ => orderly.logsIn_of_busy busy }
  · rw [Lobby.comeBack, if_neg member]
    exact orderly

theorem AllJustified.comeBack (all : AllJustified lobby.record) (client : α)
    (result : Except String Fields) : AllJustified (lobby.comeBack client result).record := by
  unfold Lobby.comeBack
  by_cases member : client ∈ lobby.away
  · rw [if_pos member]
    refine ⟨?_, all⟩
    cases tokenOf result lobby.now <;> exact trivial
  · rw [if_neg member]
    exact all

theorem Orderly.perform (orderly : Orderly lobby) (incident : Incident α) :
    Orderly (lobby.perform incident) := by
  cases incident with
  | ask client => exact orderly.ask client
  | turn => exact orderly.turn
  | loginEnds client result => exact orderly.comeBack client result
  | drop =>
    exact ⟨orderly.away_eq, rfl, fun _ => rfl, orderly.logsIn_of_busy, orderly.logsIn_of_waiting,
      orderly.noting nofun⟩
  | pass milliseconds =>
    have later : lobby.now ≤ lobby.now + milliseconds :=
      Int.le_add_of_nonneg_right (Int.natCast_nonneg milliseconds)
    exact ⟨orderly.away_eq, orderly.token_eq,
      fun busy => Desk.fresh?_eq_none_mono later (orderly.stale busy), orderly.logsIn_of_busy,
      orderly.logsIn_of_waiting, orderly.logsIn_of_record⟩

theorem AllJustified.perform (orderly : Orderly lobby) (all : AllJustified lobby.record)
    (incident : Incident α) : AllJustified (lobby.perform incident).record := by
  cases incident with
  | ask client => exact all.ask orderly client
  | turn => exact all.turn orderly
  | loginEnds client result => exact all.comeBack client result
  | drop => exact ⟨trivial, all⟩
  | pass milliseconds => exact all

theorem perform_credentials (lobby : Lobby α) (incident : Incident α) :
    (lobby.perform incident).desk.credentials = lobby.desk.credentials := by
  cases incident with
  | ask client => exact lobby.ask_credentials client
  | turn => exact lobby.turn_credentials
  | loginEnds client result =>
    change (lobby.comeBack client result).desk.credentials = _
    unfold comeBack
    split <;> rfl
  | drop | pass => rfl

theorem after_cons (lobby : Lobby α) (incident : Incident α) (incidents : List (Incident α)) :
    lobby.after (incident :: incidents) = (lobby.perform incident).after incidents :=
  rfl

theorem after_credentials (lobby : Lobby α) (incidents : List (Incident α)) :
    (lobby.after incidents).desk.credentials = lobby.desk.credentials := by
  induction incidents generalizing lobby with
  | nil => rfl
  | cons incident incidents ih => rw [after_cons, ih, perform_credentials]

theorem Orderly.after (orderly : Orderly lobby) (incidents : List (Incident α)) :
    Orderly (lobby.after incidents) := by
  induction incidents generalizing lobby with
  | nil => exact orderly
  | cons incident incidents ih => exact ih (orderly.perform incident)

theorem AllJustified.after (all : AllJustified lobby.record) (orderly : Orderly lobby)
    (incidents : List (Incident α)) : AllJustified (lobby.after incidents).record := by
  induction incidents generalizing lobby with
  | nil => exact all
  | cons incident incidents ih =>
    exact ih (all.perform orderly incident) (orderly.perform incident)

end Preserve

/-! ### After a login that failed -/

/-- Someone waits for its turn, nobody is away, and there is no fresh token. -/
structure Next (lobby : Lobby α) (next : α) : Prop where
  nobody : lobby.away = []
  free : lobby.desk.busy = none
  first : lobby.desk.waiting.head? = some next
  stale : lobby.desk.fresh? lobby.now = none

section Next

variable {lobby : Lobby α} {next : α}

theorem Next.ask (waits : Next lobby next) (client : α) : Next (lobby.ask client) next := by
  have ended := lobby.desk.asked lobby.now client
  unfold Lobby.ask
  generalize lobby.desk.ask lobby.now client = outcome at ended ⊢
  have first := waits.first
  cases ended with
  | key | missing => exact ⟨waits.nobody, waits.free, first, waits.stale⟩
  | cached _ fresh =>
    rw [waits.stale] at fresh
    cases fresh
  | logIn _ _ _ _ alone =>
    rw [alone] at first
    cases first
  | wait =>
    -- Whoever asks now queues up behind who is next.
    refine ⟨waits.nobody, waits.free, ?_, waits.stale⟩
    change (lobby.desk.waiting ++ [client]).head? = some next
    rw [List.head?_append, first, Option.some_or]

/-- Who is next logs in when its turn comes. -/
theorem Next.turn (waits : Next lobby next) {user password : String}
    (named : lobby.desk.credentials.login? = some (user, password)) :
    lobby.turn.record = ⟨lobby.now, .told next (.logIn user password)⟩ :: lobby.record := by
  obtain ⟨rest, queue⟩ := List.head?_eq_some_iff.mp waits.first
  simp only [Lobby.turn, Desk.turn?, waits.free, queue, waits.stale, named]
  rfl

variable [DecidableEq α]

/-- Until its turn comes, nothing helps who is next to a token. -/
theorem Next.perform (waits : Next lobby next) {incident : Incident α}
    (early : incident ≠ .turn) : Next (lobby.perform incident) next := by
  cases incident with
  | ask client => exact waits.ask client
  | turn => exact absurd rfl early
  | loginEnds client result =>
    change Next (lobby.comeBack client result) next
    -- Nobody is away, so nobody can come back with a token.
    have nobody : client ∉ lobby.away := by
      rw [waits.nobody]
      exact List.not_mem_nil
    rw [Lobby.comeBack, if_neg nobody]
    exact waits
  | drop => exact ⟨waits.nobody, waits.free, waits.first, rfl⟩
  | pass milliseconds =>
    have later : lobby.now ≤ lobby.now + milliseconds :=
      Int.le_add_of_nonneg_right (Int.natCast_nonneg milliseconds)
    exact ⟨waits.nobody, waits.free, waits.first, Desk.fresh?_eq_none_mono later waits.stale⟩

theorem Next.after (waits : Next lobby next) {between : List (Incident α)}
    (early : ∀ incident ∈ between, incident ≠ .turn) : Next (lobby.after between) next := by
  induction between generalizing lobby with
  | nil => exact waits
  | cons incident between ih =>
    rw [List.forall_mem_cons] at early
    exact ih (waits.perform early.1) early.2

end Next

/-! ### The life of a token -/

theorem storedBy_eq_none {record : List (Noted α)}
    (noLogin : ∀ noted ∈ record, noted.entry.aboutLogin = false) : storedBy record = none := by
  induction record with
  | nil => rfl
  | cons noted older ih =>
    rw [List.forall_mem_cons] at noLogin
    obtain ⟨moment, entry⟩ := noted
    cases entry with
    | loggedIn | loginFailed => cases noLogin.1
    | dropped => rfl
    | told => exact ih noLogin.2

/-- Where nobody can log in, there never was a login and there is no token. -/
theorem Orderly.no_login {lobby : Lobby α} (orderly : Orderly lobby)
    (unable : ¬ LogsIn lobby.desk.credentials) :
    lobby.desk.token = none ∧ lobby.away = [] ∧
      ∀ noted ∈ lobby.record, noted.entry.aboutLogin = false := by
  have silent : ∀ noted ∈ lobby.record, noted.entry.aboutLogin = false := by
    intro noted member
    by_cases about : noted.entry.aboutLogin = true
    · exact absurd (orderly.logsIn_of_record noted member about) unable
    · exact Bool.eq_false_iff.mpr about
  refine ⟨orderly.token_eq.trans (storedBy_eq_none silent), ?_, silent⟩
  rw [orderly.away_eq]
  cases busy : lobby.desk.busy with
  | none => rfl
  | some client =>
    exact absurd (orderly.logsIn_of_busy (by rw [busy]; exact Option.some_ne_none _)) unable

section Lifecycle

variable [DecidableEq α]

/-- A login that fails is the business of whoever made it: the stored token stays, and whoever
waits first is next. -/
theorem Orderly.next_of_failure {lobby : Lobby α} (orderly : Orderly lobby) {client : α}
    (member : client ∈ lobby.away) {result : Except String Fields}
    (failure : tokenOf result lobby.now = none) {next : α}
    (first : lobby.desk.waiting.head? = some next) : Next (lobby.comeBack client result) next := by
  rw [orderly.comeBack_eq member, failure]
  refine ⟨rfl, rfl, first, orderly.stale ?_⟩
  rw [(orderly.away_of_mem member).2]
  exact Option.some_ne_none _

/-- After a failed login, whoever waits first makes an attempt of its own when its turn comes,
whatever happens until then. -/
theorem Orderly.attempt_of_failure {lobby : Lobby α} (orderly : Orderly lobby) {client : α}
    (member : client ∈ lobby.away) {result : Except String Fields}
    (failure : tokenOf result lobby.now = none) {next : α}
    (first : lobby.desk.waiting.head? = some next) {between : List (Incident α)}
    (early : ∀ incident ∈ between, incident ≠ .turn) :
    let later := (lobby.comeBack client result).after between
    ∃ user password, lobby.desk.credentials.login? = some (user, password) ∧
      later.turn.record = ⟨later.now, .told next (.logIn user password)⟩ :: later.record := by
  intro later
  have queue : lobby.desk.waiting ≠ [] := by
    intro empty
    rw [empty] at first
    cases first
  obtain ⟨⟨user, password⟩, named⟩ :=
    Option.ne_none_iff_exists'.mp (orderly.logsIn_of_waiting queue).2
  have configured : later.desk.credentials = lobby.desk.credentials :=
    (after_credentials _ between).trans (perform_credentials lobby (.loginEnds client result))
  have waits : Next later next := (orderly.next_of_failure member failure first).after early
  exact ⟨user, password, named, waits.turn ((congrArg Credentials.login? configured).trans named)⟩

/-- One client at a time is away to log in, and it left because there was no fresh token. Whoever
is handed a stored token gets the one of the latest login that succeeded, which was not dropped
since and is fresh. A login that fails changes nothing but that its own client is back, and
whoever waits first then makes an attempt of its own. With a key, or without a name and a
password, nobody ever logs in. -/
theorem token_lifecycle (credentials : Credentials) (now : Int) (incidents : List (Incident α)) :
    let lobby := (Lobby.empty credentials now).after incidents
    lobby.desk.token = storedBy lobby.record ∧
    lobby.away.length ≤ 1 ∧
    (∀ newer older moment client user password,
      lobby.record = newer ++ ⟨moment, .told client (.logIn user password)⟩ :: older →
      ∀ token, storedBy older = some token → ¬ moment < token.expiresAt - 60000) ∧
    (∀ newer older moment client grant,
      lobby.record = newer ++ ⟨moment, .told client (.take grant)⟩ :: older →
      grant.source = .cachedLogin →
      ∃ token, storedBy older = some token ∧ grant.token = some token.text ∧
        moment < token.expiresAt - 60000) ∧
    (∀ client ∈ lobby.away, ∀ result, tokenOf result lobby.now = none →
      let failed := lobby.perform (.loginEnds client result)
      failed.desk.token = lobby.desk.token ∧ failed.away = [] ∧
      failed.desk.waiting = lobby.desk.waiting ∧
      failed.record = ⟨lobby.now, .loginFailed client⟩ :: lobby.record ∧
      ∀ next, lobby.desk.waiting.head? = some next →
        ∀ between : List (Incident α), (∀ incident ∈ between, incident ≠ .turn) →
          let later := failed.after between
          ∃ user password, credentials.login? = some (user, password) ∧
            (later.perform .turn).record =
              ⟨later.now, .told next (.logIn user password)⟩ :: later.record) ∧
    (credentials.key? ≠ none ∨ credentials.login? = none →
      lobby.desk.token = none ∧ lobby.away = [] ∧
        ∀ noted ∈ lobby.record, noted.entry.aboutLogin = false) := by
  intro lobby
  -- Both invariants hold in the empty lobby and are kept by every incident.
  have orderly : Orderly lobby := (Orderly.empty credentials now).after incidents
  have blank : AllJustified (Lobby.empty (α := α) credentials now).record := trivial
  have all : AllJustified lobby.record := blank.after (Orderly.empty credentials now) incidents
  have configured : lobby.desk.credentials = credentials := after_credentials _ incidents
  refine ⟨orderly.token_eq, ?_, ?_, ?_, ?_, ?_⟩
  · rw [orderly.away_eq, Option.length_toList]
    split <;> decide
  · intro newer older moment client user password place token stored
    exact Int.not_lt.mpr (all.at place token stored)
  · intro newer older moment client grant place cached
    exact all.at place cached
  · intro client member result failure failed
    -- Coming back without a token notes the failure and frees the desk, and that is all.
    have back : failed = { lobby.note (.loginFailed client) with
        desk := lobby.desk.close none, away := [] } := by
      change lobby.comeBack client result = _
      rw [orderly.comeBack_eq member, failure]
      rfl
    refine ⟨by rw [back]; rfl, by rw [back], by rw [back]; rfl, by rw [back]; rfl, ?_⟩
    intro next first between early later
    rw [← configured]
    exact orderly.attempt_of_failure member failure first early
  · intro unnamed
    apply orderly.no_login
    rw [configured]
    rintro ⟨keyless, named⟩
    rcases unnamed with keyed | anonymous
    · exact keyed keyless
    · exact named anonymous

/-- The stored token is dropped after a login failed; whoever waits logs in all the same. -/
example :
    let credentials : Credentials := ⟨none, some "u", some "p"⟩
    let incidents := [.ask 1, .ask 2, .pass 5, .loginEnds 1 (.error "refused"), .drop, .pass 1, .turn]
    ((Lobby.empty credentials 0).after incidents).record.map (·.entry) =
      [.told 2 (.logIn "u" "p"), .dropped, .loginFailed 1, .told 2 .wait,
       .told 1 (.logIn "u" "p")] := by
  decide

end Lifecycle

/-! ### A session takes place in a lobby -/

/-- The lobby shows the desk of a session and its clock. -/
def Shows (lobby : Lobby Nat) (session : Session) : Prop :=
  lobby.desk = session.desk ∧ lobby.now = session.clock

theorem turn_eq_self {lobby : Lobby α} (past : lobby.desk.turn? lobby.now = none) :
    lobby.turn = lobby := by
  rw [turn, past]

theorem turn_now (lobby : Lobby α) : lobby.turn.now = lobby.now := by
  unfold turn
  split <;> rfl

/-- Letting some turns happen at once is letting one happen after the other. -/
theorem after_turns [DecidableEq α] (n : Nat) (lobby : Lobby α) :
    (lobby.after (List.replicate n .turn)).desk = (Desk.serve lobby.now n lobby.desk).2 ∧
    (lobby.after (List.replicate n .turn)).now = lobby.now := by
  induction n generalizing lobby with
  | zero => exact ⟨rfl, rfl⟩
  | succ n ih =>
    -- A turn that does nothing leaves nothing to do for those after it.
    rw [List.replicate_succ, after_cons]
    change (lobby.turn.after _).desk = _ ∧ (lobby.turn.after _).now = _
    obtain ⟨desk, now⟩ := ih lobby.turn
    rw [turn_now] at desk now
    refine ⟨desk.trans ?_, now⟩
    rw [Desk.serve]
    cases turn : lobby.desk.turn? lobby.now with
    | none =>
      rw [turn_eq_self turn]
      cases n with
      | zero => rfl
      | succ n => rw [Desk.serve, turn]
    | some outcome =>
      rw [Lobby.turn, turn]
      rfl

theorem shows_askAll {lobby : Lobby Nat} {session : Session} (shown : Shows lobby session)
    (clients : List Nat) :
    Shows (lobby.after (clients.map .ask)) (session.askAll clients).2 := by
  induction clients generalizing lobby session with
  | nil => exact shown
  | cons client rest ih =>
    let asked := session.desk.ask session.clock client
    have next : Shows (lobby.ask client) { session with desk := asked.2 } := by
      refine ⟨?_, shown.2⟩
      change (lobby.desk.ask lobby.now client).2 = asked.2
      rw [shown.1, shown.2]
    exact ih next

/-- The session in which the next login has been made. -/
def afterLogin (session : Session) : Session :=
  { session with now := session.now + session.nextReply.delay, logins := session.logins + 1 }

theorem clock_afterLogin (session : Session) :
    (afterLogin session).clock = session.clock + session.nextReply.delay := by
  change session.epoch + ((session.now + session.nextReply.delay : Nat) : Int) = _
  rw [Int.natCast_add, ← Int.add_assoc]
  rfl

theorem logIn_eq (session : Session) :
    session.logIn.2 =
      (tokenOf session.nextReply.result (afterLogin session).clock, afterLogin session) := by
  unfold Session.logIn
  cases result : session.nextReply.result with
  | error message => simp only [result]; rfl
  | ok data =>
    simp only [result]
    split
    next token read => exact Prod.ext (congrArg Except.toOption read).symm rfl
    next crash failed => exact Prod.ext (congrArg Except.toOption failed).symm rfl

/-- Who is away comes back after some time, and then everyone has a turn who can. -/
def loginIncidents (session : Session) (client : Nat) : List (Incident Nat) :=
  .pass session.nextReply.delay :: .loginEnds client session.nextReply.result ::
    List.replicate session.desk.waiting.length .turn

theorem shows_loggedIn {lobby : Lobby Nat} {session : Session} (orderly : Orderly lobby)
    (shown : Shows lobby session) {client : Nat} (busy : session.desk.busy = some client) :
    Shows (lobby.after (loginIncidents session client))
      { afterLogin session with
        desk := (session.desk.loggedIn (afterLogin session).clock session.logIn.2.1).2 } := by
  -- The time of the login passes first, and only then does the client come back.
  let later := lobby.perform (.pass session.nextReply.delay)
  have clock : later.now = (afterLogin session).clock := by
    rw [clock_afterLogin, ← shown.2]
    rfl
  have member : client ∈ later.away := by
    rw [(orderly.perform (.pass session.nextReply.delay)).away_eq]
    change client ∈ lobby.desk.busy.toList
    rw [shown.1, busy]
    exact List.mem_singleton_self client
  have back := (orderly.perform (.pass session.nextReply.delay)).comeBack_eq member
    session.nextReply.result
  obtain ⟨desk, now⟩ := after_turns session.desk.waiting.length
    (later.comeBack client session.nextReply.result)
  refine ⟨desk.trans ?_, now.trans ?_⟩
  · rw [back, logIn_eq]
    change (Desk.serve later.now _ (lobby.desk.close (tokenOf _ later.now))).2 = _
    rw [clock, shown.1]
    rfl
  · rw [back]
    exact clock

theorem shows_settle {lobby : Lobby Nat} {session : Session} (orderly : Orderly lobby)
    (shown : Shows lobby session) (n : Nat) :
    ∃ incidents, Shows (lobby.after incidents) (session.settle n).2 := by
  induction n generalizing lobby session with
  | zero => exact ⟨[], shown⟩
  | succ n ih =>
    cases busy : session.desk.busy with
    | none =>
      refine ⟨[], ?_⟩
      rw [Session.settle, busy]
      exact shown
    | some client =>
      have next := shows_loggedIn orderly shown busy
      obtain ⟨incidents, shown⟩ := ih (orderly.after _) next
      refine ⟨loginIncidents session client ++ incidents, ?_⟩
      have made : session.logIn = (session.logIn.1, session.logIn.2.1, afterLogin session) :=
        Prod.ext rfl (Prod.ext rfl (by rw [logIn_eq]))
      rw [Session.settle, busy, after, List.foldl_append, made]
      exact shown

theorem shows_advance {lobby : Lobby Nat} {session : Session} (shown : Shows lobby session)
    (milliseconds : Nat) :
    Shows (lobby.after [.pass milliseconds]) (session.advance milliseconds) := by
  refine ⟨shown.1, ?_⟩
  change lobby.now + milliseconds = session.epoch + ((session.now + milliseconds : Nat) : Int)
  rw [shown.2, Int.natCast_add, ← Int.add_assoc]
  rfl

theorem shows_invalidate {lobby : Lobby Nat} {session : Session} (shown : Shows lobby session) :
    Shows (lobby.after [.drop]) session.invalidate :=
  ⟨congrArg Desk.invalidate shown.1, shown.2⟩

/-- Whatever clients ask for in a session could have happened in a lobby. As time may pass and the
token may be dropped there too, all that holds in every lobby holds in every session. -/
theorem shows_get {lobby : Lobby Nat} {session : Session} (orderly : Orderly lobby)
    (shown : Shows lobby session) (clients : List Nat) :
    ∃ incidents, Shows (lobby.after incidents) (session.get clients).2 := by
  obtain ⟨incidents, settled⟩ :=
    shows_settle (orderly.after (clients.map .ask)) (shows_askAll shown clients) clients.length
  refine ⟨clients.map .ask ++ incidents, ?_⟩
  rw [after, List.foldl_append]
  exact settled

end Lobby

end DomainScout.Access
