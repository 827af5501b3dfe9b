import DomainScout.Command
import DomainScout.Proofs.Check.Callers
import DomainScout.Proofs.Check.Merging

/-!
# Checks from the command line

A command checks all its domains at the same time and tells the results in the order of the arguments. What
it tells of a domain is what the check of this very argument came to, also where several arguments name one
host and share a run. The exit code counts every argument. All of this ends where a result cannot be turned
into a response, because what the reputation service told is nested too deeply: this failure is handled by
nobody.

Main statement: `faithful_iff`.
-/
namespace DomainScout.Command

open CheckService Remote

variable {σ : Type} {service : CheckService σ} {domains : List String}

/-- The options that ask for something else than checks. -/
def reserved : List String := ["-h", "--help", "--tables", "--columns", "--capabilities"]

def responseText (checked : Checked) : String :=
  Json.indented (View.finite (View.reportValue Text.camelCase checked))

/-- What is printed and what is told as errors of some domains, each with the number of its caller: in
order, a line for each that is no domain, and a response with what the caller was answered for each other
one. -/
inductive Told (service : CheckService σ) : List (String × Nat) → List String → List String → Prop
  | done : Told service [] [] []
  | rejected {domain : String} {caller : Nat} {fault : Host.Invalid} {asked : List (String × Nat)}
      {printed errors : List String} (unreadable : Host.ofValue (.text domain) = .error fault)
      (others : Told service asked printed errors) :
      Told service ((domain, caller) :: asked) printed ((domain ++ ": " ++ "Invalid domain") :: errors)
  | checked {domain : String} {caller : Nat} {answer : CheckAnswer} {checked : Checked}
      {asked : List (String × Nat)} {printed errors : List String}
      (answered : service.answerOf? caller = some answer) (result : answer.result = .ok checked)
      (reads : Host.ofValue (.text domain) = .ok checked.report.domain)
      (others : Told service asked printed errors) :
      Told service ((domain, caller) :: asked) (responseText checked :: printed) errors

/-- Neither service told an error. -/
def Spotless (checked : Checked) : Prop :=
  checked.report.reputation.error = none ∧ checked.report.archive.error = none

/-- What a command that checks domains should come to. -/
structure Faithful (domains : List String) (service : CheckService σ) (result : Result) : Prop where
  told : Told service domains.zipIdx result.printed result.errors
  ending : result.ending = .ok 0 ∨ result.ending = .ok 2
  /-- The exit code is zero just when every argument is a domain and no result has an error. -/
  clean : result.ending = .ok 0 ↔ (∀ domain ∈ domains, ∃ host, Host.ofValue (.text domain) = .ok host) ∧
    ∀ answer ∈ service.answers, ∀ checked, answer.result = .ok checked → Spotless checked

/-! ### Telling results -/

/-- The report can be turned into a response. -/
def Shallow (checked : Checked) : Prop := checked.report.reputation.raw.levels ≤ View.maxLevels

theorem checkResult_of_shallow {checked : Checked} (shallow : Shallow checked) :
    View.checkResult (.ok checked) = .ok (View.finite (View.reportValue Text.camelCase checked)) := by
  have enclosed : View.enclose checked.report.reputation.raw = _ := if_pos shallow
  rw [View.checkResult, enclosed]
  rfl

theorem checkResult_of_deep {checked : Checked} (deep : ¬ Shallow checked) :
    View.checkResult (.ok checked) = .error (.unhandled (.crash .tooDeep)) := by
  have refused : View.enclose checked.report.reputation.raw = _ := if_neg deep
  rw [View.checkResult, refused]
  rfl

theorem spotless_iff {checked : Checked} (telling : checked.report.Telling) :
    isClean (.ok checked) = true ↔ Spotless checked := by
  simp [isClean, Report.isClean, Spotless, tellsError_eq_false telling.reputation,
    tellsError_eq_false telling.archive]

section Tell

variable {clean : Bool} {domain : String} {rest : List CheckedDomain}

theorem tell_invalid (fault : Host.Invalid) :
    tell clean ((domain, .error (.invalidDomain fault)) :: rest) =
      { tell false rest with
        errors := (domain ++ ": " ++ "Invalid domain") :: (tell false rest).errors } := by
  rw [tell]
  rfl

theorem tell_shallow {checked : Checked} (shallow : Shallow checked) :
    tell clean ((domain, .ok checked) :: rest) =
      { tell (clean && isClean (.ok checked)) rest with
        printed := responseText checked :: (tell (clean && isClean (.ok checked)) rest).printed } := by
  rw [tell, checkResult_of_shallow shallow]
  rfl

theorem tell_deep {checked : Checked} (deep : ¬ Shallow checked) :
    tell clean ((domain, .ok checked) :: rest) = ⟨[], [], .error (.crash .tooDeep)⟩ := by
  rw [tell, checkResult_of_deep deep]

end Tell

/-! ### Who was answered -/

/-- A caller who asked for a domain was answered, without the check breaking down. -/
structure Served (service : CheckService σ) (domain : String) (caller : Nat)
    (result : Except CheckError Checked) : Prop where
  answered : ∃ answer, service.answerOf? caller = some answer ∧ answer.result = result
  answers : Answers (.text domain) result
  whole : ∀ crash, result ≠ .error (.crash crash)

def SpotlessFor (service : CheckService σ) (caller : Nat) : Prop :=
  ∃ answer checked, service.answerOf? caller = some answer ∧ answer.result = .ok checked ∧ Spotless checked

/-- What the callers were answered, beside the domains that they asked for. -/
def resultsOf (service : CheckService σ) (asked : List (String × Nat)) : List CheckedDomain :=
  asked.filterMap fun (domain, caller) =>
    (service.answerOf? caller).map fun answer => (domain, answer.result)

section Served

variable {domain : String} {caller : Nat} {asked : List (String × Nat)} {result : Except CheckError Checked}

theorem Served.resultsOf_cons (served : Served service domain caller result) :
    resultsOf service ((domain, caller) :: asked) = (domain, result) :: resultsOf service asked := by
  obtain ⟨answer, found, rfl⟩ := served.answered
  simp [resultsOf, found]

theorem Served.spotlessFor_iff (served : Served service domain caller result) :
    SpotlessFor service caller ↔ ∃ checked, result = .ok checked ∧ Spotless checked := by
  obtain ⟨answer, found, rfl⟩ := served.answered
  constructor
  · rintro ⟨other, checked, found', told, spotless⟩
    cases found.symm.trans found'
    exact ⟨checked, told, spotless⟩
  · rintro ⟨checked, told, spotless⟩
    exact ⟨answer, checked, found, told, spotless⟩

theorem Served.unique {other : Except CheckError Checked} (served : Served service domain caller result)
    (served' : Served service domain caller other) : result = other := by
  obtain ⟨answer, found, rfl⟩ := served.answered
  obtain ⟨answer', found', rfl⟩ := served'.answered
  cases found.symm.trans found'
  rfl

end Served

/-- What is told of some results, if all of them can be told. -/
theorem told_tell {asked : List (String × Nat)}
    (served : ∀ pair ∈ asked, ∃ result, Served service pair.1 pair.2 result ∧
      ∀ checked, result = .ok checked → Shallow checked) (clean : Bool) :
    Told service asked (tell clean (resultsOf service asked)).printed
        (tell clean (resultsOf service asked)).errors ∧
      ((tell clean (resultsOf service asked)).ending = .ok 0 ∨
        (tell clean (resultsOf service asked)).ending = .ok 2) ∧
      ((tell clean (resultsOf service asked)).ending = .ok 0 ↔
        clean = true ∧ ∀ pair ∈ asked, SpotlessFor service pair.2) := by
  induction asked generalizing clean with
  | nil =>
    refine ⟨.done, ?_⟩
    cases clean <;> simp [resultsOf, tell]
  | cons pair rest ih =>
    rw [List.forall_mem_cons] at served ⊢
    obtain ⟨⟨result, served, shallow⟩, others⟩ := served
    obtain ⟨domain, caller⟩ := pair
    rw [served.resultsOf_cons, served.spotlessFor_iff]
    obtain ⟨answer, found, own⟩ := served.answered
    cases served.answers with
    | invalid unreadable =>
      -- The verdict is lost here for good, whatever the others come to.
      obtain ⟨told, ends, zero⟩ := ih others false
      rw [tell_invalid]
      exact ⟨.rejected unreadable told, ends, by simp [zero]⟩
    | @reported checked reads telling =>
      -- The verdict stays if this report tells no error either.
      obtain ⟨told, ends, zero⟩ := ih others (clean && isClean (.ok checked))
      rw [tell_shallow (shallow checked rfl)]
      refine ⟨.checked found own reads told, ends, ?_⟩
      rw [zero, Bool.and_eq_true, spotless_iff telling, and_assoc]
      simp
    | broken => exact absurd rfl (served.whole _)

/-- A result that is nested too deeply ends the command. -/
theorem ending_tell_of_deep {asked : List (String × Nat)}
    (served : ∀ pair ∈ asked, ∃ result, Served service pair.1 pair.2 result)
    (deep : ∃ pair ∈ asked, ∃ checked, Served service pair.1 pair.2 (.ok checked) ∧ ¬ Shallow checked)
    (clean : Bool) : (tell clean (resultsOf service asked)).ending = .error (.crash .tooDeep) := by
  induction asked generalizing clean with
  | nil => simp at deep
  | cons pair rest ih =>
    rw [List.forall_mem_cons] at served
    obtain ⟨⟨result, served⟩, others⟩ := served
    -- A result in front that can be told is told, and the command goes on to the one that cannot.
    have onward (told : ∀ checked, result = .ok checked → Shallow checked) (clean : Bool) :
        (tell clean (resultsOf service rest)).ending = .error (.crash .tooDeep) := by
      obtain ⟨other, member, checked, served', deep⟩ := deep
      rcases List.mem_cons.mp member with rfl | later
      · exact absurd (told checked (served.unique served')) deep
      · exact ih others ⟨other, later, checked, served', deep⟩ clean
    obtain ⟨domain, caller⟩ := pair
    rw [served.resultsOf_cons]
    cases served.answers with
    | invalid =>
      rw [tell_invalid]
      apply onward
      rintro _ ⟨⟩
    | @reported checked =>
      by_cases shallow : Shallow checked
      · rw [tell_shallow shallow]
        apply onward
        rintro _ ⟨⟩
        exact shallow
      · rw [tell_deep shallow]
    | broken => exact absurd rfl (served.whole _)

/-! ### Checks of arguments -/

/-- Arguments that ask for nothing else ask for checks. -/
theorem parse_eq_check {arguments : List String} (given : arguments ≠ [])
    (plain : ∀ option ∈ reserved, option ∉ arguments) :
    parse arguments = .check (arguments.filter (!isOption ·)) := by
  simp only [reserved, List.forall_mem_cons, List.not_mem_nil, false_implies, implies_true, and_true] at plain
  obtain ⟨h, help, tables, columns, capabilities⟩ := plain
  simp [parse, given, h, help, tables, columns, capabilities]

/-- The checks of some domains, by callers that are numbered in order. -/
def inquiriesOf (domains : List String) : List Inquiry := domains.map fun domain => ⟨0, .text domain, none⟩

/-- Everyone is answered once, and all answers are answers to someone. -/
theorem served_check (sites : CheckSites σ) (server : σ) (credentials : Credentials)
    (lifetime : Measure) (domains : List String) :
    let service := (CheckService.new server credentials lifetime).check sites (inquiriesOf domains)
    (∀ answer ∈ service.answers, ∀ crash, answer.result ≠ .error (.crash crash)) →
      (service.answers.map CheckAnswer.caller).Perm (List.range domains.length) ∧
      (∀ pair ∈ domains.zipIdx, ∃ answer ∈ service.answers, Served service pair.1 pair.2 answer.result) ∧
      ∀ answer ∈ service.answers, ∃ pair ∈ domains.zipIdx, Served service pair.1 pair.2 answer.result := by
  intro service whole
  have patient : ∀ inquiry ∈ inquiriesOf domains, inquiry.patience = none := by
    simp [inquiriesOf]
  obtain ⟨once, fits⟩ := answered_once sites server credentials lifetime patient
  change (service.answers.map CheckAnswer.caller).Perm _ at once
  rw [inquiriesOf, List.length_map] at once
  have distinct : (service.answers.map CheckAnswer.caller).Nodup := once.nodup_iff.mpr List.nodup_range
  have everyone : ∀ caller, caller ∈ service.answers.map CheckAnswer.caller ↔ caller < domains.length := by
    simp [once.mem_iff]
  -- An answer serves the caller whose number it bears, for the argument of this number.
  have serves {answer : CheckAnswer} (told : answer ∈ service.answers) {domain : String}
      (here : domains[answer.caller]? = some domain) :
      Served service domain answer.caller answer.result := by
    have found : service.answerOf? answer.caller = some answer :=
      (find?_eq_some_iff_of_nodup distinct).mpr ⟨told, rfl⟩
    refine ⟨⟨answer, found, rfl⟩, ?_, whole answer told⟩
    have own : askedBy (inquiriesOf domains) answer.caller = .text domain := by
      simp [askedBy, inquiriesOf, here]
    exact own ▸ fits answer told
  refine ⟨once, ?_, ?_⟩
  · rintro ⟨domain, caller⟩ member
    have here := List.mem_zipIdx_iff_getElem?.mp member
    obtain ⟨answer, told, rfl⟩ :=
      List.mem_map.mp ((everyone caller).mpr (List.getElem?_eq_some_iff.mp here).1)
    exact ⟨answer, told, serves told here⟩
  · intro answer told
    have inside := (everyone answer.caller).mp (List.mem_map_of_mem told)
    have here := List.getElem?_eq_getElem inside
    exact ⟨(domains[answer.caller], answer.caller), List.mem_zipIdx_iff_getElem?.mpr here, serves told here⟩

/-- All callers were answered without errors just when all arguments are domains and no report tells an
error. -/
theorem spotlessFor_all_iff
    (everyone : ∀ pair ∈ domains.zipIdx,
      ∃ answer ∈ service.answers, Served service pair.1 pair.2 answer.result)
    (others : ∀ answer ∈ service.answers, ∃ pair ∈ domains.zipIdx,
      Served service pair.1 pair.2 answer.result) :
    (∀ pair ∈ domains.zipIdx, SpotlessFor service pair.2) ↔
      (∀ domain ∈ domains, ∃ host, Host.ofValue (.text domain) = .ok host) ∧
        ∀ answer ∈ service.answers, ∀ checked, answer.result = .ok checked → Spotless checked := by
  constructor
  · intro spotless
    constructor
    · intro domain argument
      obtain ⟨caller, here⟩ := List.mem_iff_getElem?.mp argument
      have member : (domain, caller) ∈ domains.zipIdx := List.mem_zipIdx_iff_getElem?.mpr here
      obtain ⟨answer, -, served⟩ := everyone _ member
      obtain ⟨checked, told, -⟩ := served.spotlessFor_iff.mp (spotless _ member)
      -- Only who asks for a domain is answered with a report.
      have answers := served.answers
      rw [told] at answers
      cases answers with
      | reported reads => exact ⟨_, reads⟩
    · intro answer told checked result
      obtain ⟨pair, member, served⟩ := others answer told
      obtain ⟨other, same, clean⟩ := served.spotlessFor_iff.mp (spotless pair member)
      cases result.symm.trans same
      exact clean
  · rintro ⟨valid, clean⟩ ⟨domain, caller⟩ member
    obtain ⟨answer, told, served⟩ := everyone _ member
    rw [served.spotlessFor_iff]
    obtain ⟨host, reads⟩ := valid domain (List.mem_of_getElem? (List.mem_zipIdx_iff_getElem?.mp member))
    cases outcome : answer.result with
    | ok checked => exact ⟨checked, rfl, clean answer told checked outcome⟩
    | error =>
      -- A domain is not rejected, and no check breaks down.
      have answers := served.answers
      rw [outcome] at answers
      cases answers with
      | invalid unreadable => cases reads.symm.trans unreadable
      | broken => exact absurd outcome (served.whole _)

section Run

variable (tools : Tools σ) (explorer : Explorer) (server : σ) (credentials : Credentials)
  (lifetime : Measure) {arguments : List String}

theorem run_parse (state : State σ) (given : arguments ≠ [])
    (plain : ∀ option ∈ reserved, option ∉ arguments) :
    (run tools state (parse arguments)).1 =
      tell true (resultsOf (state.service.check tools.sites (inquiriesOf (arguments.filter (!isOption ·))))
        (arguments.filter (!isOption ·)).zipIdx) := by
  rw [parse_eq_check given plain]
  rfl

/-- A report that is nested too deeply is a failure of the whole command. -/
theorem ending_run_of_deep (given : arguments ≠ []) (plain : ∀ option ∈ reserved, option ∉ arguments) :
    let domains := arguments.filter (!isOption ·)
    let start : State σ := ⟨explorer, .new server credentials lifetime⟩
    let service := start.service.check tools.sites (inquiriesOf domains)
    (∀ answer ∈ service.answers, ∀ crash, answer.result ≠ .error (.crash crash)) →
      (∃ answer ∈ service.answers, ∃ checked, answer.result = .ok checked ∧ ¬ Shallow checked) →
        (run tools start (parse arguments)).1.ending = .error (.crash .tooDeep) := by
  rintro domains start service whole ⟨answer, told, checked, result, deep⟩
  obtain ⟨-, everyone, others⟩ := served_check tools.sites server credentials lifetime domains whole
  have served : ∀ pair ∈ domains.zipIdx, ∃ result, Served service pair.1 pair.2 result := by
    intro pair member
    obtain ⟨answer, -, served⟩ := everyone pair member
    exact ⟨answer.result, served⟩
  obtain ⟨pair, member, served'⟩ := others answer told
  rw [run_parse tools start given plain]
  exact ending_tell_of_deep served ⟨pair, member, checked, result ▸ served', deep⟩ true

/-- A command that checks domains tells what it should, unless a result is nested too deeply. -/
theorem faithful_iff (given : arguments ≠ []) (plain : ∀ option ∈ reserved, option ∉ arguments) :
    let domains := arguments.filter (!isOption ·)
    let start : State σ := ⟨explorer, .new server credentials lifetime⟩
    let service := start.service.check tools.sites (inquiriesOf domains)
    (∀ answer ∈ service.answers, ∀ crash, answer.result ≠ .error (.crash crash)) →
      (service.answers.map CheckAnswer.caller).Perm (List.range domains.length) ∧
      (Faithful domains service (run tools start (parse arguments)).1 ↔
        ∀ answer ∈ service.answers, ∀ checked, answer.result = .ok checked → Shallow checked) := by
  intro domains start service whole
  obtain ⟨once, everyone, others⟩ := served_check tools.sites server credentials lifetime domains whole
  refine ⟨once, ?_, ?_⟩
  · intro faithful answer told checked result
    by_contra deep
    have broke := ending_run_of_deep tools explorer server credentials lifetime given plain whole
      ⟨answer, told, checked, result, deep⟩
    rcases faithful.ending with ends | ends <;> cases broke.symm.trans ends
  · intro shallow
    have tellable : ∀ pair ∈ domains.zipIdx, ∃ result, Served service pair.1 pair.2 result ∧
        ∀ checked, result = .ok checked → Shallow checked := by
      intro pair member
      obtain ⟨answer, told, served⟩ := everyone pair member
      exact ⟨answer.result, served, shallow answer told⟩
    obtain ⟨told, ending, clean⟩ := told_tell tellable true
    rw [run_parse tools start given plain]
    refine ⟨told, ending, ?_⟩
    rw [clean, spotlessFor_all_iff everyone others]
    exact and_iff_right rfl

end Run

def withoutDatabase (sites : CheckSites σ) : Tools σ :=
  ⟨fun _ => .error (.query "no database"), "domains.duckdb", false, sites⟩

/-- A program that was just started. -/
def started (script : Script) : State Script :=
  ⟨.new "domains" "main", .new script keyHolder (.ofMilliseconds 900000)⟩

def checksOf (script : Script) (domains : List String) : CheckService Script :=
  (started script).service.check playing (inquiriesOf domains)

def isTellable : Except CheckError Checked → Bool
  | .ok checked => decide (checked.report.reputation.raw.levels ≤ View.maxLevels)
  | .error (.crash _) => false
  | .error _ => true

/-- Names of one host, one of them twice, beside something that is no domain. -/
def spellings : List String := ["example.com", "no domain", "HTTPS://Example.com/", "example.com"]

theorem isTellable_of_spellings :
    (checksOf recorded spellings).answers.all (fun answer => isTellable answer.result) = true := by
  decide +kernel

theorem faithful_of_spellings :
    "-v" :: spellings ≠ [] ∧ (∀ option ∈ reserved, option ∉ "-v" :: spellings) ∧
      (∀ answer ∈ (checksOf recorded spellings).answers, ∀ crash,
        answer.result ≠ .error (.crash crash)) ∧
      ((checksOf recorded spellings).answers.map CheckAnswer.caller).Perm (List.range 4) ∧
      Faithful spellings (checksOf recorded spellings)
        (run (withoutDatabase playing) (started recorded) (parse ("-v" :: spellings))).1 := by
  have given : "-v" :: spellings ≠ [] := List.cons_ne_nil _ _
  have plain : ∀ option ∈ reserved, option ∉ "-v" :: spellings := by decide
  have arguments : ("-v" :: spellings).filter (!isOption ·) = spellings := by decide
  have tellable := List.all_eq_true.mp isTellable_of_spellings
  have whole : ∀ answer ∈ (checksOf recorded spellings).answers, ∀ crash,
      answer.result ≠ .error (.crash crash) := by
    intro answer member crash broke
    have told := tellable answer member
    rw [broke] at told
    cases told
  have iff := faithful_iff (withoutDatabase playing) (.new "domains" "main") recorded keyHolder
    (.ofMilliseconds 900000) given plain
  rw [arguments] at iff
  obtain ⟨everyone, faithful⟩ := iff whole
  refine ⟨given, plain, whole, everyone, faithful.mpr ?_⟩
  intro answer member checked result
  have shallow := tellable answer member
  rw [result, isTellable, decide_eq_true_eq] at shallow
  exact shallow

/-- A reputation service that tells lists within lists. -/
def buried : Script :=
  .ofReplies [("lookup",
    [⟨0, .answered ⟨200, List.replicate 256 '['.toUInt8 ++ List.replicate 256 ']'.toUInt8⟩⟩])]

theorem levels_of_buried :
    (checksOf buried ["example.com"]).answers.map
      (fun answer => answer.result.toOption.map (·.report.reputation.raw.levels)) = [some 256] := by
  decide +kernel

/-- The check gives a report, but the command ends without telling anything. -/
theorem not_faithful_of_buried :
    (∀ answer ∈ (checksOf buried ["example.com"]).answers, ∃ checked, answer.result = .ok checked) ∧
      ¬ Faithful ["example.com"] (checksOf buried ["example.com"])
        (run (withoutDatabase playing) (started buried) (parse ["example.com"])).1 := by
  -- The only answer is a report, which is nested one level too deep.
  obtain ⟨answer, alone, levels⟩ := List.map_eq_singleton_iff.mp levels_of_buried
  obtain ⟨checked, result, deep⟩ : ∃ checked, answer.result = .ok checked ∧ ¬ Shallow checked := by
    cases outcome : answer.result with
    | ok checked =>
      rw [outcome] at levels
      have levels : checked.report.reputation.raw.levels = 256 := Option.some.inj levels
      refine ⟨checked, rfl, ?_⟩
      rw [Shallow, levels]
      decide
    | error =>
      rw [outcome] at levels
      cases levels
  have member : answer ∈ (checksOf buried ["example.com"]).answers :=
    alone ▸ List.mem_singleton_self answer
  have reported : ∀ other ∈ (checksOf buried ["example.com"]).answers,
      ∃ checked, other.result = .ok checked := by
    rw [alone, List.forall_mem_singleton]
    exact ⟨checked, result⟩
  have whole : ∀ other ∈ (checksOf buried ["example.com"]).answers, ∀ crash,
      other.result ≠ .error (.crash crash) := by
    intro other told crash failed
    obtain ⟨checked, result⟩ := reported other told
    cases failed.symm.trans result
  have arguments : ["example.com"].filter (!isOption ·) = ["example.com"] := by decide
  have ends := ending_run_of_deep (withoutDatabase playing) (.new "domains" "main") buried keyHolder
    (.ofMilliseconds 900000) (List.cons_ne_nil "example.com" []) (by decide)
  rw [arguments] at ends
  have broke := ends whole ⟨answer, member, checked, result, deep⟩
  refine ⟨reported, fun faithful => ?_⟩
  rcases faithful.ending with ended | ended <;> cases broke.symm.trans ended

end DomainScout.Command
