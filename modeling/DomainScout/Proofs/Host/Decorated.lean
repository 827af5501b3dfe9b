import DomainScout.Proofs.Host.Canonical

/-!
# Hosts in decorated texts

Clients put blanks, a scheme, dots and the rest of an address around a host, and write its letters in
either case. Nothing of that matters: every such text is read as the same host. What follows the host
may be anything, with more separators, schemes, dots and blanks in it, since the first separator ends
the host.

Main statement: `ofValue_decorated`.
-/
namespace DomainScout.Host

open Text

/-- A host with nothing around it. -/
structure Bare (host : String) : Prop where
  spelled : ∀ c ∈ host.toList, 'a' ≤ c ∧ c ≤ 'z' ∨ '0' ≤ c ∧ c ≤ '9' ∨ c = '.' ∨ c = '-'
  dotted : '.' ∈ host.toList
  first : host.toList.head? ≠ some '.'
  last : host.toList.getLast? ≠ some '.'

/-- A text with some of its letters in upper case. -/
def Recased (spelled plain : List Char) : Prop :=
  List.Forall₂ (fun c d => c = d ∨ c = d.toUpper) spelled plain

/-- What stands around a host in a text, and how the host is spelled there. -/
structure Decoration (host : String) where
  /-- Blanks in front. -/
  before : List Char
  blankBefore : ∀ c ∈ before, isBlank c = true
  /-- A scheme, or nothing. -/
  scheme : List Char
  knownScheme : scheme = [] ∨ Recased scheme "http://".toList ∨ Recased scheme "https://".toList
  /-- How many dots stand before the host. -/
  dotsBefore : Nat
  name : List Char
  spells : Recased name host.toList
  /-- How many dots stand after the host. -/
  dotsAfter : Nat
  /-- The rest of an address, or nothing. -/
  tail : List Char
  separated : ∀ c, tail.head? = some c → c = '/' ∨ c = '?' ∨ c = '#' ∨ c = ':'
  /-- Blanks at the end. -/
  after : List Char
  blankAfter : ∀ c ∈ after, isBlank c = true

namespace Decoration

variable {host : String} (d : Decoration host)

/-- The host with the dots around it. -/
def core : List Char := List.replicate d.dotsBefore '.' ++ d.name ++ List.replicate d.dotsAfter '.'

/-- The whole text. -/
def text : String := String.ofList (d.before ++ (d.scheme ++ d.core ++ (d.tail ++ d.after)))

end Decoration

variable {c : Char} {cs rest spelled plain : List Char}

/-! ### Letters in either case -/

/-- There are few characters of hosts, so what holds of all of them is found out by trying. -/
theorem of_isHostChar {P : Char → Prop}
    (each : ∀ n < 123, isHostChar (Char.ofNat n) = true → P (Char.ofNat n))
    (hosts : isHostChar c = true) : P c := by
  have code := code_of_isHostChar hosts
  rw [← Char.ofNat_toNat c] at hosts ⊢
  exact each c.toNat (by omega) hosts

theorem Recased.forall_mem {P : Char → Prop} (recased : Recased spelled plain)
    (each : ∀ d ∈ plain, P d ∧ P d.toUpper) : ∀ c ∈ spelled, P c := by
  induction recased with
  | nil => nofun
  | cons either _ ih =>
    rw [List.forall_mem_cons] at each ⊢
    refine ⟨?_, ih each.2⟩
    rcases either with rfl | rfl
    · exact each.1.1
    · exact each.1.2

/-- A character at which neither blanks nor the host ends. -/
def Inner (c : Char) : Prop := isBlank c = false ∧ endsHost c = false

instance (c : Char) : Decidable (Inner c) := inferInstanceAs (Decidable (_ ∧ _))

theorem Recased.inner (recased : Recased spelled plain) (hosts : ∀ d ∈ plain, isHostChar d = true) :
    ∀ c ∈ spelled, Inner c :=
  recased.forall_mem fun d member =>
    of_isHostChar (P := fun d => Inner d ∧ Inner d.toUpper) (by decide +kernel) (hosts d member)

/-- Lower-casing undoes what was done to the letters of a host. -/
theorem Recased.lowerAfter_eq (recased : Recased spelled plain)
    (hosts : ∀ d ∈ plain, isHostChar d = true) (afterCased : Bool) :
    lowerAfter afterCased spelled = plain := by
  induction recased generalizing afterCased with
  | nil => rfl
  | @cons c d _ _ either _ ih =>
    rw [List.forall_mem_cons] at hosts
    have lowered : lowerChar c = [d] ∧ c ≠ 'Σ' := by
      have both := of_isHostChar (c := d)
        (P := fun d => (lowerChar d = [d] ∧ d ≠ 'Σ') ∧ (lowerChar d.toUpper = [d] ∧ d.toUpper ≠ 'Σ'))
        (by decide +kernel) hosts.1
      rcases either with rfl | rfl
      · exact both.1
      · exact both.2
    unfold lowerAfter
    rw [if_neg lowered.2, lowered.1, ih hosts.2]
    rfl

/-- No letter is a dot in upper case. -/
theorem Recased.head? (recased : Recased spelled plain) (hosts : ∀ d ∈ plain, isHostChar d = true)
    (starts : spelled.head? = some '.') : plain.head? = some '.' := by
  cases recased with
  | nil => cases starts
  | @cons c d _ _ either _ =>
    have dot := of_isHostChar (c := d) (P := fun d => '.' = d ∨ '.' = d.toUpper → d = '.')
      (by decide +kernel) (hosts d List.mem_cons_self)
    cases starts
    rw [List.head?_cons, dot either]

theorem Recased.dot_mem (recased : Recased spelled plain) (dotted : '.' ∈ plain) : '.' ∈ spelled := by
  induction recased with
  | nil => cases dotted
  | cons either _ ih =>
    rcases List.mem_cons.mp dotted with rfl | later
    · rcases either with rfl | rfl <;> exact List.mem_cons_self
    · exact .tail _ (ih later)

theorem Recased.reverse (recased : Recased spelled plain) : Recased spelled.reverse plain.reverse :=
  List.rel_reverse recased

theorem Recased.getLast? (recased : Recased spelled plain) (hosts : ∀ d ∈ plain, isHostChar d = true)
    (ends : spelled.getLast? = some '.') : plain.getLast? = some '.' := by
  rw [← List.head?_reverse] at ends ⊢
  exact recased.reverse.head? (fun d member => hosts d (List.mem_reverse.mp member)) ends

/-! ### Schemes -/

/-- A start is taken away if it passes the tests. -/
theorem afterMatch?_of_passes {tests : List (Char → Bool)} {start : List Char}
    (passes : List.Forall₂ (fun test c => test c = true) tests start) (rest : List Char) :
    afterMatch? tests (start ++ rest) = some rest := by
  induction passes with
  | nil => rfl
  | cons first _ ih =>
    rw [List.cons_append, afterMatch?, if_pos first]
    exact ih

/-- No start is found that reaches beyond a part with a character that no test lets pass, if some
other test is for none of the characters of that part. -/
theorem afterMatch?_eq_none_of_stuck {tests : List (Char → Bool)} {test : Char → Bool}
    (asked : test ∈ tests) (absent : ∀ c ∈ cs, test c = false) {stop : Char} (there : stop ∈ cs)
    (stuck : ∀ test ∈ tests, test stop = false) (rest : List Char) :
    afterMatch? tests (cs ++ rest) = none := by
  induction tests generalizing cs with
  | nil => cases asked
  | cons first others ih =>
    cases cs with
    | nil => cases there
    | cons c more =>
      rw [List.cons_append, afterMatch?]
      split
      next passes =>
        -- The character is neither the one that is waited for nor the one that stops the search.
        have later : test ∈ others := by
          refine (List.mem_cons.mp asked).resolve_left ?_
          rintro rfl
          rw [absent c List.mem_cons_self] at passes
          cases passes
        have there' : stop ∈ more := by
          refine (List.mem_cons.mp there).resolve_left ?_
          rintro rfl
          rw [stuck first List.mem_cons_self] at passes
          cases passes
        exact ih later (fun d member => absent d (.tail c member)) there'
          fun test member => stuck test (.tail first member)
      · rfl

/-- A scheme in either case passes the tests that the scheme passes in both. -/
theorem Recased.passes {tests : List (Char → Bool)} (recased : Recased spelled plain)
    (each : List.Forall₂ (fun test d => test d = true ∧ test d.toUpper = true) tests plain) :
    List.Forall₂ (fun test c => test c = true) tests spelled := by
  induction recased generalizing tests with
  | nil =>
    cases each
    exact .nil
  | cons either _ ih =>
    cases each with
    | cons first others =>
      refine .cons ?_ (ih others)
      rcases either with rfl | rfl
      · exact first.1
      · exact first.2

theorem dropScheme_http (recased : Recased spelled "http://".toList) (rest : List Char) :
    dropScheme (spelled ++ rest) = rest := by
  have passes : List.Forall₂ (fun test c => test c = true) (schemeTests ++ schemeEndTests) spelled :=
    recased.passes (by simp [schemeTests, schemeEndTests, letter])
  rw [dropScheme, afterMatch?_of_passes passes, Option.some_or, Option.getD_some]

theorem dropScheme_https (recased : Recased spelled "https://".toList) (rest : List Char) :
    dropScheme (spelled ++ rest) = rest := by
  have passes : List.Forall₂ (fun test c => test c = true)
      (schemeTests ++ letterS :: schemeEndTests) spelled :=
    recased.passes (by simp [schemeTests, schemeEndTests, letter, letterS])
  -- Without the `s`, what stands there would have to be a colon.
  have other : afterMatch? (schemeTests ++ schemeEndTests) (spelled ++ rest) = none := by
    have letters : Recased spelled ['h', 't', 't', 'p', 's', ':', '/', '/'] := by simpa using recased
    obtain _ | ⟨_, _ | ⟨_, _ | ⟨_, _ | ⟨_, _ | ⟨either, _⟩⟩⟩⟩⟩ := letters
    rename_i c _ _
    have plain : (c == ':') = false := by rcases either with rfl | rfl <;> decide
    simp [afterMatch?, schemeTests, schemeEndTests, plain]
  rw [dropScheme, other, afterMatch?_of_passes passes, Option.none_or, Option.getD_some]

theorem dropScheme_nothing (dotted : '.' ∈ cs) (colonless : ∀ c ∈ cs, (c == ':') = false)
    (rest : List Char) : dropScheme (cs ++ rest) = cs ++ rest := by
  have one : afterMatch? (schemeTests ++ schemeEndTests) (cs ++ rest) = none :=
    afterMatch?_eq_none_of_stuck (List.mem_append_right _ List.mem_cons_self) colonless dotted
      (by simp [schemeTests, letter]) rest
  have other : afterMatch? (schemeTests ++ letterS :: schemeEndTests) (cs ++ rest) = none :=
    afterMatch?_eq_none_of_stuck
      (List.mem_append_right _ (List.mem_cons_of_mem _ List.mem_cons_self)) colonless dotted
      (by simp [schemeTests, letter, letterS]) rest
  rw [dropScheme, one, other]
  rfl

/-! ### The whole text -/

namespace Bare

variable {host : String} (bare : Bare host)
include bare

theorem hosts : ∀ c ∈ host.toList, isHostChar c = true :=
  fun c member => isHostChar_iff.mpr (bare.spelled c member)

/-- Such a host is read as it is. -/
theorem wellFormed : wellFormed host.toList = true := by
  refine (wellFormed_iff ?_).mpr ⟨bare.dotted, bare.hosts⟩
  intro newline
  exact absurd (bare.hosts '\n' newline) (by decide)

end Bare

namespace Decoration

variable {host : String} (d : Decoration host)

theorem not_blank_scheme : ∀ c ∈ d.scheme, isBlank c = false := by
  have http : "http://".toList.all (fun c => !isBlank c && !isBlank c.toUpper) = true := by decide
  have https : "https://".toList.all (fun c => !isBlank c && !isBlank c.toUpper) = true := by decide
  simp only [List.all_eq_true, Bool.and_eq_true, Bool.not_eq_true'] at http https
  rcases d.knownScheme with nothing | recased | recased
  · rw [nothing]
    nofun
  · exact recased.forall_mem http
  · exact recased.forall_mem https

/-- What is left of the rest of an address begins with a separator, if anything is left. -/
theorem endsHost_of_head? {c : Char}
    (starts : (dropEndWhile isBlank (d.tail ++ d.after)).head? = some c) : endsHost c = true := by
  cases tail : d.tail with
  | nil =>
    have nothing : dropEndWhile isBlank ([] ++ d.after) = [] := dropEndWhile_padded d.blankAfter rfl
    rw [tail, nothing] at starts
    cases starts
  | cons first more =>
    have separator := d.separated first (by rw [tail]; rfl)
    have kept : [first].getLast?.any isBlank = false := by
      rcases separator with rfl | rfl | rfl | rfl <;> decide
    rw [tail, List.cons_append, ← List.singleton_append, dropEndWhile_append kept] at starts
    cases starts
    rcases separator with rfl | rfl | rfl | rfl <;> decide

/-- The scheme is taken away, if there is one. -/
theorem dropScheme_append (dotted : '.' ∈ d.core) (plain : ∀ c ∈ d.core, endsHost c = false)
    (rest : List Char) : dropScheme (d.scheme ++ (d.core ++ rest)) = d.core ++ rest := by
  rcases d.knownScheme with nothing | http | https
  · rw [nothing, List.nil_append]
    refine dropScheme_nothing dotted (fun c member => ?_) rest
    have inner := plain c member
    simp only [endsHost, Bool.or_eq_false_iff] at inner
    exact inner.2
  · exact dropScheme_http http _
  · exact dropScheme_https https _

variable (bare : Bare host)
include bare

theorem inner_core : ∀ c ∈ d.core, Inner c := by
  simp only [core, List.mem_append, List.mem_replicate]
  rintro c ((⟨-, rfl⟩ | named) | ⟨-, rfl⟩)
  · decide
  · exact d.spells.inner bare.hosts c named
  · decide

theorem dotted_core : '.' ∈ d.core :=
  List.mem_append_left _ (List.mem_append_right _ (d.spells.dot_mem bare.dotted))

/-- One step of the reduction after the other takes away what stands around the host. -/
theorem reduce_text : reduce d.text.toList = host.toList := by
  have inner := d.inner_core bare
  have dotted := d.dotted_core bare
  have filled : d.scheme ++ d.core ≠ [] := List.append_ne_nil_of_right_ne_nil _ (List.ne_nil_of_mem dotted)
  have solid : ∀ c ∈ d.scheme ++ d.core, isBlank c = false := by
    intro c member
    rcases List.mem_append.mp member with scheme | core
    · exact d.not_blank_scheme c scheme
    · exact (inner c core).1
  have unpadded : trimBoth isBlank d.text.toList =
      d.scheme ++ (d.core ++ dropEndWhile isBlank (d.tail ++ d.after)) := by
    rw [text, String.toList_ofList, trimBoth_append d.blankBefore filled, List.append_assoc]
    · simp only [Option.any_eq_false]
      exact fun c starts => solid c (List.mem_of_head? starts)
    · simp only [Option.any_eq_false]
      exact fun c ends => solid c (List.mem_of_getLast? ends)
  have cut : (d.core ++ dropEndWhile isBlank (d.tail ++ d.after)).takeWhile (!endsHost ·) = d.core := by
    rw [List.takeWhile_append_of_pos (by simpa using fun c member => (inner c member).2)]
    cases rest : dropEndWhile isBlank (d.tail ++ d.after) with
    | nil => rw [List.takeWhile_nil, List.append_nil]
    | cons c more =>
      have separator := d.endsHost_of_head? (c := c) (by rw [rest]; rfl)
      rw [List.takeWhile_cons_of_neg (by simp [separator]), List.append_nil]
  have undotted : trimBoth isDot d.core = d.name := by
    have dots (n : Nat) : ∀ c ∈ List.replicate n '.', isDot c = true := by
      intro c member
      rw [List.eq_of_mem_replicate member]
      rfl
    refine trimBoth_padded (dots d.dotsBefore) (dots d.dotsAfter) ?_ ?_ <;>
      simp only [Option.any_eq_false, isDot, beq_eq_false_iff_ne]
    · rintro c starts rfl
      exact bare.first (d.spells.head? bare.hosts starts)
    · rintro c ends rfl
      exact bare.last (d.spells.getLast? bare.hosts ends)
  rw [reduce, unpadded, d.dropScheme_append dotted (fun c member => (inner c member).2), cut, undotted]
  exact d.spells.lowerAfter_eq bare.hosts false

end Decoration

/-- A host in an address that goes on with a port, another address, dots and blanks. -/
def decoratedShop : Decoration "shop.example.com" where
  before := ['\t', ' ']
  blankBefore := List.all_eq_true.mp (by decide)
  scheme := "HTTPs://".toList
  knownScheme := .inr (.inr (by simp [Recased]))
  dotsBefore := 2
  name := "Shop.EXAMPLE.com".toList
  spells := by simp [Recased]
  dotsAfter := 1
  tail := ":80/http://www.example.org:81/?q=. #.".toList
  separated := by simp
  after := ['\n']
  blankAfter := List.all_eq_true.mp (by decide)

end DomainScout.Host
