import DomainScout.Url.Reading
import Mathlib

/-!
# Addresses that go on

An absolute URL stays one when a path is put behind it, and a form may be put into it as long as
nothing becomes too long.

Main statement: `read_append`.
-/
namespace DomainScout.Url

open Text

/-- In a URL with a scheme, what comes after the authority is of no matter for what it is. -/
theorem ofParts_of_scheme {scheme authority path : List Char} {query fragment : Option (List Char)}
    {url : Url} (reads : ofParts scheme authority path query fragment = .ok url)
    (named : scheme ≠ []) (path' : List Char) (query' fragment' : Option (List Char)) :
    ∃ other, ofParts scheme authority path' query' fragment' = .ok other ∧
      other.scheme = url.scheme ∧ other.host = url.host := by
  -- Only a path that stands alone can be at fault, and one behind a scheme does not.
  have spelled : scheme.isEmpty = false := List.isEmpty_eq_false_iff.mpr named
  unfold ofParts at reads ⊢
  simp only [bind, Except.bind, spelled, Bool.false_and] at reads ⊢
  generalize hostForm (splitPort (splitUserinfo authority).2).1 = host at reads ⊢
  generalize portForm (String.ofList scheme) (splitPort (splitUserinfo authority).2).2 = port at reads ⊢
  cases host with
  | error fault => cases reads
  | ok host =>
    cases port with
    | error fault => cases reads
    | ok port =>
      cases reads
      exact ⟨_, rfl, rfl, rfl⟩

theorem span_append {p : Char → Bool} (cs : List Char) {c : Char} (rest : List Char)
    (stops : p c = false) :
    (cs ++ c :: rest).span p = ((cs.span p).1, (cs.span p).2 ++ c :: rest) := by
  simp only [List.span_eq_takeWhile_dropWhile]
  induction cs with
  | nil => simp [stops]
  | cons first others ih =>
    obtain ⟨taken, dropped⟩ := Prod.mk.inj ih
    cases kept : p first <;> simp [kept, taken, dropped]

/-- A scheme ends before a path starts. -/
theorem readScheme_append {cs scheme rest : List Char} (reads : readScheme cs = (scheme, rest))
    (named : scheme ≠ []) (path : List Char) :
    readScheme (cs ++ '/' :: path) = (scheme, rest ++ '/' :: path) := by
  unfold readScheme at reads
  split at reads
  · cases reads
    exact absurd rfl named
  next c others colonless =>
    -- The colon that ends the scheme stands before the slash.
    have longer : ((c :: others) ++ '/' :: path).span isSchemeChar = _ :=
      span_append (c :: others) path rfl
    split at reads
    next before after ends =>
      split at reads
      next alpha =>
        cases reads
        rw [ends, List.cons_append] at longer
        rw [List.cons_append]
        unfold readScheme
        split
        next colon =>
          cases colon
          exact absurd rfl colonless
        next same =>
          cases same
          simp only [longer, List.cons_append, alpha, if_true]
        next nothing => cases nothing
      · cases reads
        exact absurd rfl named
    · cases reads
      exact absurd rfl named
  · cases reads
    exact absurd rfl named

/-- An authority ends before a path starts. -/
theorem readAuthority_append {cs authority rest : List Char}
    (reads : readAuthority cs = (authority, rest)) (named : authority ≠ []) (path : List Char) :
    readAuthority (cs ++ '/' :: path) = (authority, rest ++ '/' :: path) := by
  unfold readAuthority at reads
  split at reads
  next others =>
    change (others ++ '/' :: path).span _ = _
    rw [span_append _ _ rfl, reads]
  · cases reads
    exact absurd rfl named

theorem ne_nil_of_isAbsolute {scheme authority path : List Char} {query fragment : Option (List Char)}
    {url : Url} (reads : ofParts scheme authority path query fragment = .ok url)
    (absolute : url.isAbsolute = true) : scheme ≠ [] ∧ authority ≠ [] := by
  simp only [isAbsolute, Bool.and_eq_true, bne_iff_ne] at absolute
  unfold ofParts at reads
  simp only [bind, Except.bind] at reads
  constructor
  · rintro rfl
    split at reads
    · cases reads
    split at reads
    · cases reads
    split at reads
    · cases reads
    · cases reads
      exact absolute.1 rfl
  · rintro rfl
    have nowhere : hostForm (splitPort (splitUserinfo []).2).1 = .ok [] := rfl
    rw [nowhere] at reads
    simp only at reads
    split at reads
    · cases reads
    split at reads
    · cases reads
    · cases reads
      exact absolute.2 rfl

/-- A text that is neither too long nor holds controls is read part by part. -/
theorem read_eq_ofParts {s : String} {scheme rest authority after : List Char}
    (fits : s.length ≤ maxLength) (printable : ∀ c ∈ s.toList, isAsciiControl c = false)
    (schemed : readScheme s.toList = (scheme, rest))
    (authorized : readAuthority rest = (authority, after)) :
    ∃ path query fragment, read s = ofParts scheme authority path query fragment := by
  have short : ¬ maxLength < s.toList.length := Nat.not_lt.mpr fits
  have plain : s.toList.any isAsciiControl = false := by simpa using printable
  unfold read
  simp only [short, plain, schemed, authorized, if_false, Bool.false_eq_true]
  exact ⟨_, _, _, rfl⟩

theorem printable_of_read {s : String} {url : Url} (reads : read s = .ok url) :
    ∀ c ∈ s.toList, isAsciiControl c = false := by
  simp only [read] at reads
  split at reads
  · cases reads
  split at reads
  · cases reads
  next uncontrolled => simpa using uncontrolled

theorem printable_of_all {s : String} (all : s.toList.all (!isAsciiControl ·) = true) :
    ∀ c ∈ s.toList, isAsciiControl c = false := by
  simpa using all

/-- An absolute URL behind which a path is put is an absolute URL. -/
theorem read_append {base path : String} {url : Url} (reads : read base = .ok url)
    (absolute : url.isAbsolute = true) (starts : path.toList.head? = some '/')
    (printable : ∀ c ∈ path.toList, isAsciiControl c = false)
    (fits : base.length + path.length ≤ maxLength) :
    ∃ other, read (base ++ path) = .ok other ∧ other.isAbsolute = true := by
  -- The longer text has the same scheme and authority, which decide what is absolute.
  obtain ⟨cs, slash⟩ := List.head?_eq_some_iff.mp starts
  have plain := printable_of_read reads
  obtain ⟨⟨scheme, rest⟩, schemed⟩ : ∃ parts, readScheme base.toList = parts := ⟨_, rfl⟩
  obtain ⟨⟨authority, after⟩, authorized⟩ : ∃ parts, readAuthority rest = parts := ⟨_, rfl⟩
  obtain ⟨_, _, _, whole⟩ :=
    read_eq_ofParts (Nat.le_trans (Nat.le_add_right _ _) fits) plain schemed authorized
  rw [whole] at reads
  obtain ⟨named, placed⟩ := ne_nil_of_isAbsolute reads absolute
  have spelled : (base ++ path).toList = base.toList ++ '/' :: cs := by
    rw [String.toList_append, slash]
  have fits' : (base ++ path).length ≤ maxLength := by
    rw [String.length_append]
    exact fits
  have plain' : ∀ c ∈ (base ++ path).toList, isAsciiControl c = false := by
    intro c member
    rw [String.toList_append] at member
    exact (List.mem_append.mp member).elim (plain c) (printable c)
  have schemed' : readScheme (base ++ path).toList = (scheme, rest ++ '/' :: cs) := by
    rw [spelled]
    exact readScheme_append schemed named cs
  obtain ⟨path', query, fragment, longer⟩ :=
    read_eq_ofParts fits' plain' schemed' (readAuthority_append authorized placed cs)
  obtain ⟨other, goesOn, scheme', host'⟩ := ofParts_of_scheme reads named path' query fragment
  refine ⟨other, longer.trans goesOn, ?_⟩
  rw [isAbsolute, scheme', host']
  exact absolute

theorem isAsciiControl_of_encoded {c : Char} (encoded : isUnreserved c = true ∨ c = '%') :
    isAsciiControl c = false := by
  rcases encoded with unreserved | rfl
  · simp only [isUnreserved, Char.isAlphanum, Char.isAlpha, Char.isUpper, Char.isLower, Char.isDigit,
      Bool.or_eq_true, Bool.and_eq_true, decide_eq_true_eq, beq_iff_eq, ge_iff_le,
      UInt32.le_iff_toNat_le] at unreserved
    rcases unreserved with (((letterOrDigit | rfl) | rfl) | rfl) | rfl
    · have bounds : 0x20 ≤ c.toNat ∧ c.toNat < 0x7F := by
        change (((65 ≤ c.toNat ∧ c.toNat ≤ 90) ∨ (97 ≤ c.toNat ∧ c.toNat ≤ 122)) ∨
          (48 ≤ c.toNat ∧ c.toNat ≤ 57)) at letterOrDigit
        omega
      simp only [isAsciiControl, Bool.or_eq_false_iff, decide_eq_false_iff_not, beq_eq_false_iff_ne]
      omega
    all_goals rfl
  · rfl

theorem target_of_isAbsolute {url : Url} (absolute : url.isAbsolute = true) : target url = .ok url :=
  if_pos absolute

/-- The query of a form. -/
def formText (form : List (String × String)) : String :=
  "&".intercalate (form.map fun (name, v) => name ++ "=" ++ formEncode v)

/-- A form that is not too long can be put into a URL that is not. -/
theorem withForm_of_length_le {url : Url} {form : List (String × String)}
    (path : url.path.length ≤ maxLength) (query : (formText form).length ≤ maxLength) :
    ∃ other, url.withForm form = .ok other ∧ other.scheme = url.scheme := by
  unfold withForm
  split
  · exact ⟨url, rfl, rfl⟩
  · let filled : Url := { url with query := some (formText form) }
    have short : filled.path.length ≤ maxLength ∧ filled.query.all (·.length ≤ maxLength) :=
      ⟨path, by simpa [filled] using query⟩
    have whole : checked filled = .ok filled := if_pos short
    exact ⟨filled, whole, rfl⟩

end DomainScout.Url
