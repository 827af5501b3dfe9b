import DomainScout.Proofs.Criteria.Accepted

/-!
# Reading criteria again

Criteria that were read can be written as an object and read again, in either spelling of the keys. What
matters of an object is the value of each filter, and where every filter comes under one name only the
filters keep their values when their names are exchanged for others. So nothing depends on the
spelling.

Main statement: `reread`.
-/
namespace DomainScout.Criteria

open Text

variable {fields : Fields} {criteria : Criteria} {field other : Field} {name : FieldName} {v : Value}

/-! ### Names -/

/-- A name is a key of a filter. -/
def Field.Names (field : Field) (name : FieldName) : Prop := ∃ key ∈ field.keys, name = .plain key

/-- The names in an object. -/
def names (fields : Fields) : List FieldName := fields.map Prod.fst

/-- No filter comes under two names. -/
def UsesOnce (fields : Fields) : Prop :=
  ∀ field : Field, ∀ one ∈ names fields, ∀ two ∈ names fields,
    field.Names one → field.Names two → one = two

/-- Keys become keys of the same filter, and other names become other names. -/
def Renames (rename : FieldName → FieldName) : Prop :=
  ∀ (field : Field) (name : FieldName), field.Names (rename name) ↔ field.Names name

/-- An object with other names. -/
def renamed (rename : FieldName → FieldName) (fields : Fields) : Fields :=
  fields.map fun pair => (rename pair.1, pair.2)

theorem Field.names_plain {key : String} : field.Names (.plain key) ↔ key ∈ field.keys := by
  simp [Field.Names]

/-- The words that the keys of a filter spell. -/
def Field.words : Field → List String
  | .lifecycle => [Field.lifecycle.name, lifecycleAlias]
  | field => [field.name]

theorem mem_keys_iff {key : String} :
    key ∈ field.keys ↔ ∃ word ∈ field.words, ∃ spelling : Spelling, spelling.write word = key := by
  have either (word : String) :
      (∃ spelling : Spelling, spelling.write word = key) ↔ key = camelCase word ∨ key = word := by
    constructor
    · rintro ⟨spelling, rfl⟩
      cases spelling with
      | snake => exact .inr rfl
      | camel => exact .inl rfl
    · rintro (rfl | rfl)
      · exact ⟨.camel, rfl⟩
      · exact ⟨.snake, rfl⟩
  simp only [either]
  cases field with
  | lifecycle =>
    simp only [Field.keys, Field.words, Spelling.write, List.flatMap_cons, List.flatMap_nil,
      List.append_nil, List.mem_append, List.mem_cons, List.not_mem_nil, or_false, exists_eq_or_imp,
      exists_eq_left]
    tauto
  | text | tld | safeSpamhausOnly | safeViewsTotalOnly =>
    simp [Field.keys, Field.words, Spelling.write]

/-- No key spells two words, and no two filters share one. -/
theorem words_apart : ∀ one ∈ Field.all, ∀ two ∈ Field.all, ∀ word ∈ one.words, ∀ word' ∈ two.words,
    (word = word' ∨ camelCase word = word' ∨ camelCase word = camelCase word') →
      one = two ∧ word = word' := by
  decide +kernel

theorem eq_of_write_eq {word word' : String} {spelling spelling' : Spelling} (own : word ∈ field.words)
    (others : word' ∈ other.words) (same : spelling.write word = spelling'.write word') :
    field = other ∧ word = word' := by
  have apart := words_apart field (mem_all field) other (mem_all other) word own word' others
  cases spelling with
  | camel =>
    cases spelling' with
    | camel => exact apart (.inr (.inr same))
    | snake => exact apart (.inr (.inl same))
  | snake =>
    cases spelling' with
    | camel =>
      have apart := words_apart other (mem_all other) field (mem_all field) word' others word own
      obtain ⟨rfl, rfl⟩ := apart (.inr (.inl same.symm))
      exact ⟨rfl, rfl⟩
    | snake => exact apart (.inl same)

theorem Field.Names.eq (own : field.Names name) (others : other.Names name) : field = other := by
  obtain ⟨key, known, rfl⟩ := own
  obtain ⟨key', known', same⟩ := others
  cases same
  obtain ⟨word, mine, spelling, rfl⟩ := mem_keys_iff.mp known
  obtain ⟨word', theirs, spelling', same⟩ := mem_keys_iff.mp known'
  exact (eq_of_write_eq mine theirs same.symm).1

theorem names_renamed (rename : FieldName → FieldName) (fields : Fields) :
    names (renamed rename fields) = (names fields).map rename := by
  simp [names, renamed]

theorem UsesOnce.renamed {rename : FieldName → FieldName} (once : UsesOnce fields)
    (renames : Renames rename) : UsesOnce (renamed rename fields) := by
  intro field one here two there own own'
  rw [names_renamed, List.mem_map] at here there
  obtain ⟨one', here, rfl⟩ := here
  obtain ⟨two', there, rfl⟩ := there
  rw [once field one' here two' there ((renames field one').mp own) ((renames field two').mp own')]

/-! ### Values -/

theorem mem_names_of_lookup? (found : Value.lookup? name fields = some v) : name ∈ names fields :=
  List.mem_map_of_mem (mem_of_lookup? found)

theorem exists_lookup? (here : name ∈ names fields) : ∃ v, Value.lookup? name fields = some v := by
  rw [← Option.ne_none_iff_exists', Value.lookup?, ne_eq, List.lookup_eq_none_iff]
  intro absent
  obtain ⟨pair, member, rfl⟩ := List.mem_map.mp here
  simpa using absent pair member

theorem firstPresent?_eq_some {key : String} (found : firstPresent? fields field.keys = some (key, v)) :
    key ∈ field.keys ∧ Value.lookup? key fields = some v := by
  rw [firstPresent?_eq] at found
  obtain ⟨key', known, here⟩ := List.exists_of_findSome?_eq_some found
  obtain ⟨value, here, same⟩ := Option.map_eq_some_iff.mp here
  cases same
  exact ⟨known, here⟩

theorem raw_eq_null (absent : ∀ name ∈ names fields, ¬ field.Names name) :
    Field.raw fields field = .null := by
  unfold Field.raw
  cases found : firstPresent? fields field.keys with
  | none => rfl
  | some pair =>
    obtain ⟨known, here⟩ := firstPresent?_eq_some found
    exact absurd (Field.names_plain.mpr known) (absent _ (mem_names_of_lookup? here))

/-- A filter that comes under one name has the value of that name. -/
theorem UsesOnce.raw_eq (once : UsesOnce fields) (own : field.Names name)
    (here : Value.lookup? name fields = some v) : Field.raw fields field = v := by
  obtain ⟨key, known, rfl⟩ := own
  unfold Field.raw
  cases found : firstPresent? fields field.keys with
  | none =>
    rw [firstPresent?_eq, List.findSome?_eq_none_iff] at found
    have absent := found key known
    rw [here] at absent
    cases absent
  | some pair =>
    obtain ⟨known', here'⟩ := firstPresent?_eq_some found
    have same := once field _ (mem_names_of_lookup? here) _ (mem_names_of_lookup? here')
      (Field.names_plain.mpr known) (Field.names_plain.mpr known')
    rw [← same, here] at here'
    cases here'
    rfl

theorem lookup?_renamed {rename : FieldName → FieldName}
    (apart : ∀ other ∈ names fields, rename other = rename name → other = name) :
    Value.lookup? (rename name) (renamed rename fields) = Value.lookup? name fields := by
  induction fields with
  | nil => rfl
  | cons pair rest ih =>
    obtain ⟨first, v⟩ := pair
    have tail := ih fun other here => apart other (List.mem_cons_of_mem _ here)
    have head : (rename name == rename first) = (name == first) := by
      rw [Bool.eq_iff_iff, beq_iff_eq, beq_iff_eq]
      exact ⟨fun same => (apart first List.mem_cons_self same.symm).symm, congrArg rename⟩
    simp only [Value.lookup?, renamed, List.map_cons, List.lookup_cons, head] at tail ⊢
    rw [tail]

/-- A filter keeps its value under another name. -/
theorem raw_renamed {rename : FieldName → FieldName} (renames : Renames rename) (once : UsesOnce fields)
    (field : Field) : Field.raw (renamed rename fields) field = Field.raw fields field := by
  by_cases present : ∃ name ∈ names fields, field.Names name
  · obtain ⟨name, here, own⟩ := present
    obtain ⟨v, found⟩ := exists_lookup? here
    rw [once.raw_eq own found]
    apply (once.renamed renames).raw_eq ((renames field name).mpr own)
    rw [lookup?_renamed, found]
    intro other there same
    refine once field other there name here ((renames field other).mp ?_) own
    rw [same]
    exact (renames field name).mpr own
  · have absent : ∀ name ∈ names fields, ¬ field.Names name :=
      fun name here own => present ⟨name, here, own⟩
    rw [raw_eq_null absent, raw_eq_null]
    intro name here own
    rw [names_renamed] at here
    obtain ⟨name', here', rfl⟩ := List.mem_map.mp here
    exact absent name' here' ((renames field name').mp own)

theorem Gives.of_raw_eq {fields' : Fields} (gives : Gives fields criteria)
    (same : ∀ field, Field.raw fields' field = Field.raw fields field) : Gives fields' criteria where
  text field := (same _).symm ▸ gives.text field
  tlds := (same _).symm ▸ gives.tlds
  lifecycle := (same _).symm ▸ gives.lifecycle
  safeSpamhausOnly := (same _).symm ▸ gives.safeSpamhausOnly
  safeViewsTotalOnly := (same _).symm ▸ gives.safeViewsTotalOnly

/-! ### Criteria as an object -/

/-- A name for each filter among its own keys. -/
def NamesAll (key : Field → String) : Prop := ∀ field : Field, key field ∈ field.keys

section Encode

variable {key : Field → String}

theorem NamesAll.injective (own : NamesAll key) : Function.Injective key := by
  intro one two same
  exact (Field.names_plain.mpr (own one)).eq (Field.names_plain.mpr (same ▸ own two))

theorem nodup_all : Field.all.Nodup := List.nodup_iff_count_eq_one.mpr fun field _ => count_all field

/-- The fields of criteria that are written as an object. -/
def encodedFields (key : Field → String) (criteria : Criteria) : Fields :=
  Field.all.map fun field => (key field, criteria.value field)

theorem names_encodedFields (key : Field → String) (criteria : Criteria) :
    names (encodedFields key criteria) = Field.all.map fun field => .plain (key field) := by
  simp [names, encodedFields]

theorem NamesAll.usesOnce (own : NamesAll key) (criteria : Criteria) :
    UsesOnce (encodedFields key criteria) := by
  intro field one here two there names names'
  rw [names_encodedFields, List.mem_map] at here there
  obtain ⟨first, -, rfl⟩ := here
  obtain ⟨second, -, rfl⟩ := there
  have first' := names.eq (Field.names_plain.mpr (own first))
  have second' := names'.eq (Field.names_plain.mpr (own second))
  rw [← first', ← second']

theorem NamesAll.lookup? (own : NamesAll key) (criteria : Criteria) (field : Field) :
    Value.lookup? (key field) (encodedFields key criteria) = some (criteria.value field) := by
  have here : .plain (key field) ∈ names (encodedFields key criteria) := by
    rw [names_encodedFields]
    exact List.mem_map_of_mem (mem_all field)
  obtain ⟨v, found⟩ := exists_lookup? here
  obtain ⟨other, -, same⟩ := List.mem_map.mp (mem_of_lookup? found)
  simp only [Prod.mk.injEq, FieldName.plain.injEq] at same
  rw [found, ← same.2, own.injective same.1]

theorem NamesAll.raw_eq (own : NamesAll key) (criteria : Criteria) (field : Field) :
    Field.raw (encodedFields key criteria) field = criteria.value field :=
  (own.usesOnce criteria).raw_eq (Field.names_plain.mpr (own field)) (own.lookup? criteria field)

end Encode

theorem textOf_ofText? {text : Option String} (settled : ∀ s, text = some s → Settled s) :
    textOf (.ofText? text) = .ok text := by
  cases text with
  | none => rfl
  | some s => exact congrArg Except.ok (settled s rfl)

theorem termsOf_list {terms : List String} (settled : ∀ t ∈ terms, Settled t) :
    termsOf (.list (terms.map .text)) = .ok terms := by
  have each : (terms.map Value.text).mapM textOf = .ok (terms.map some) := by
    rw [List.mapM_map]
    exact mapM_eq_ok fun t listed => congrArg Except.ok (settled t listed)
  rw [termsOf, each]
  simp [bind, Except.bind, pure, Except.pure]

theorem readLifecycle_name (state : Option Lifecycle) :
    readLifecycle (.ofText? (state.map Lifecycle.name)) = .ok state := by
  cases state with
  | none => rfl
  | some state => cases state <;> decide +kernel

/-- Criteria that were read are read again as themselves, whatever keys of the filters they are written
with. -/
theorem NamesAll.ofValue_encode {key : Field → String} (own : NamesAll key) {raw : Value}
    (accepted : ofValue raw = .ok criteria) : ofValue (criteria.encode key) = .ok criteria := by
  obtain ⟨texts, terms⟩ := settled_of_ofValue accepted
  change ofValue (.object (encodedFields key criteria)) = .ok criteria
  rw [ofValue_object_eq_ok_iff]
  constructor
  case text =>
    intro field
    rw [own.raw_eq]
    exact textOf_ofText? (texts field)
  case tlds =>
    rw [own.raw_eq]
    exact termsOf_list terms
  case lifecycle =>
    rw [own.raw_eq]
    exact readLifecycle_name criteria.lifecycle
  case safeSpamhausOnly | safeViewsTotalOnly =>
    rw [own.raw_eq]
    rfl

/-! ### Spellings -/

/-- The key of a filter in a spelling; the lifecycle filter may come under its older name. -/
def Spelling.key (spelling : Spelling) (older : Bool) : Field → String
  | .lifecycle => spelling.write (if older then lifecycleAlias else Field.lifecycle.name)
  | field => spelling.write field.name

/-- The word that a key spells, in one way or the other. -/
def wordOf? (key : String) : Option String :=
  (Field.all.flatMap Field.words).find? fun word =>
    Spelling.snake.write word = key ∨ Spelling.camel.write word = key

/-- A key in a spelling, whichever it was in; what is no key stays as it is. -/
def Spelling.respell (spelling : Spelling) : FieldName → FieldName
  | .plain key => .plain (((wordOf? key).map spelling.write).getD key)
  | .ragged glyphs => .ragged glyphs

theorem namesAll_key (spelling : Spelling) (older : Bool) : NamesAll (spelling.key older) := by
  intro field
  rw [mem_keys_iff]
  cases field with
  | lifecycle => cases older <;> exact ⟨_, by simp [Field.words], spelling, rfl⟩
  | text | tld | safeSpamhausOnly | safeViewsTotalOnly =>
    exact ⟨_, List.mem_singleton_self _, spelling, rfl⟩

theorem of_wordOf? {key word : String} (spelled : wordOf? key = some word) :
    ∃ field : Field, word ∈ field.words ∧ ∃ spelling : Spelling, spelling.write word = key := by
  obtain ⟨field, -, own⟩ := List.mem_flatMap.mp (List.mem_of_find?_eq_some spelled)
  have written := List.find?_some spelled
  simp only [decide_eq_true_eq] at written
  rcases written with snake | camel
  · exact ⟨field, own, .snake, snake⟩
  · exact ⟨field, own, .camel, camel⟩

theorem wordOf?_write {word : String} (own : word ∈ field.words) (spelling : Spelling) :
    wordOf? (spelling.write word) = some word := by
  cases spelled : wordOf? (spelling.write word) with
  | none =>
    have listed : word ∈ Field.all.flatMap Field.words :=
      List.mem_flatMap.mpr ⟨field, mem_all field, own⟩
    have unwritten := List.find?_eq_none.mp spelled word listed
    cases spelling <;> simp at unwritten
  | some word' =>
    obtain ⟨other, others, spelling', same⟩ := of_wordOf? spelled
    rw [(eq_of_write_eq others own same).2]

theorem names_write {word : String} (own : word ∈ other.words) (spelling : Spelling) :
    field.Names (.plain (spelling.write word)) ↔ field = other := by
  have names : other.Names (.plain (spelling.write word)) :=
    Field.names_plain.mpr (mem_keys_iff.mpr ⟨word, own, spelling, rfl⟩)
  exact ⟨fun mine => mine.eq names, fun same => same ▸ names⟩

theorem renames_respell (spelling : Spelling) : Renames spelling.respell := by
  intro field name
  cases name with
  | ragged glyphs => exact Iff.rfl
  | plain key =>
    rw [Spelling.respell]
    cases spelled : wordOf? key with
    | none => exact Iff.rfl
    | some word =>
      -- The word belongs to one filter, in whatever spelling.
      obtain ⟨other, own, spelling', rfl⟩ := of_wordOf? spelled
      exact (names_write own spelling).trans (names_write own spelling').symm

theorem respell_eq_self (spelling : Spelling) (foreign : ∀ field : Field, ¬ field.Names name) :
    spelling.respell name = name := by
  cases name with
  | ragged glyphs => rfl
  | plain key =>
    rw [Spelling.respell]
    cases spelled : wordOf? key with
    | none => rfl
    | some word =>
      obtain ⟨field, own, spelling', rfl⟩ := of_wordOf? spelled
      exact absurd ((names_write own spelling').mpr rfl) (foreign field)

theorem nodup_renamed_respell (spelling : Spelling) (once : UsesOnce fields)
    (distinct : (names fields).Nodup) : (names (renamed spelling.respell fields)).Nodup := by
  rw [names_renamed]
  refine distinct.map_on fun one here two there same => ?_
  have renames := renames_respell spelling
  by_cases own : ∃ field : Field, field.Names one
  · obtain ⟨field, own⟩ := own
    refine once field one here two there own ((renames field two).mp ?_)
    rw [← same]
    exact (renames field one).mpr own
  · have foreign : ∀ field : Field, ¬ field.Names one := fun field names => own ⟨field, names⟩
    have foreign' : ∀ field : Field, ¬ field.Names two := by
      intro field names
      refine foreign field ((renames field one).mp ?_)
      rw [same]
      exact (renames field two).mpr names
    rwa [respell_eq_self spelling foreign, respell_eq_self spelling foreign'] at same

theorem exists_key_eq {word : String} (own : word ∈ field.words) (spelling : Spelling) :
    ∃ older, spelling.write word = spelling.key older field := by
  cases field with
  | lifecycle =>
    simp only [Field.words, List.mem_cons, List.not_mem_nil, or_false] at own
    rcases own with rfl | rfl
    · exact ⟨false, rfl⟩
    · exact ⟨true, rfl⟩
  | text | tld | safeSpamhausOnly | safeViewsTotalOnly =>
    cases List.mem_singleton.mp own
    exact ⟨false, rfl⟩

/-- An object in which every key is in a spelling. -/
def Spelled (spelling : Spelling) (fields : Fields) : Prop :=
  ∀ field : Field, ∀ name ∈ names fields, field.Names name →
    ∃ older, name = .plain (spelling.key older field)

theorem spelled_renamed_respell (spelling : Spelling) (fields : Fields) :
    Spelled spelling (renamed spelling.respell fields) := by
  intro field name here own
  rw [names_renamed] at here
  obtain ⟨name', -, rfl⟩ := List.mem_map.mp here
  obtain ⟨key, known, rfl⟩ := (renames_respell spelling field name').mp own
  obtain ⟨word, listed, spelling', rfl⟩ := mem_keys_iff.mp known
  obtain ⟨older, written⟩ := exists_key_eq listed spelling
  refine ⟨older, ?_⟩
  rw [Spelling.respell, wordOf?_write listed, ← written]
  rfl

/-! ### Reading again -/

/-- In how many ways criteria that were read can be read again. -/
structure Reread (raw : Value) (criteria : Criteria) : Prop where
  /-- Written with every filter in one spelling, and the lifecycle under either of its names, they are
  an object that is read as themselves. -/
  encoded : ∀ (spelling : Spelling) (older : Bool), ∃ fields,
    criteria.encode (spelling.key older) = .object fields ∧
      names fields = Field.all.map (fun field => .plain (spelling.key older field)) ∧
      (names fields).Nodup ∧ ofValue (.object fields) = .ok criteria
  /-- The object that they were read from may be brought into one spelling, if no filter comes under two
  names in it. -/
  respelled : ∀ (fields : Fields) (spelling : Spelling),
    raw = .object fields → (names fields).Nodup → UsesOnce fields →
    Spelled spelling (renamed spelling.respell fields) ∧
      (names (renamed spelling.respell fields)).Nodup ∧
      ofValue (.object (renamed spelling.respell fields)) = .ok criteria
  /-- Any other exchange of keys of the same filter makes no difference either. -/
  renamed : ∀ (fields : Fields) (rename : FieldName → FieldName),
    raw = .object fields → UsesOnce fields → Renames rename →
    ofValue (.object (renamed rename fields)) = .ok criteria

/-- Criteria do not depend on the spelling in which they are read again. -/
theorem reread {raw : Value} (accepted : ofValue raw = .ok criteria) : Reread raw criteria := by
  have renamed (fields : Fields) (rename : FieldName → FieldName) (object : raw = .object fields)
      (once : UsesOnce fields) (renames : Renames rename) :
      ofValue (.object (Criteria.renamed rename fields)) = .ok criteria := by
    subst object
    rw [ofValue_object_eq_ok_iff] at accepted ⊢
    exact accepted.of_raw_eq (raw_renamed renames once)
  constructor
  case encoded =>
    intro spelling older
    have own := namesAll_key spelling older
    refine ⟨encodedFields (spelling.key older) criteria, rfl, names_encodedFields _ _, ?_,
      own.ofValue_encode accepted⟩
    rw [names_encodedFields]
    exact nodup_all.map fun one two same => own.injective (FieldName.plain.inj same)
  case respelled =>
    intro fields spelling object distinct once
    exact ⟨spelled_renamed_respell spelling fields, nodup_renamed_respell spelling once distinct,
      renamed fields spelling.respell object once (renames_respell spelling)⟩
  case renamed => exact renamed

/-- An object in a mixed spelling, with a name that is no key. -/
def mixedFields : Fields :=
  [("tld", .text "com, .NET"), ("expired_state", .text " Expiring "), ("ageYearsFrom", .int 3),
    ("safe_spamhaus_only", .bool true), ("age_years", .list [])]

theorem reread_mixedFields :
    ofValue (.object mixedFields) = .ok (ofFields mixedFields) ∧ (names mixedFields).Nodup ∧
      UsesOnce mixedFields ∧ Reread (.object mixedFields) (ofFields mixedFields) := by
  have clean : problems mixedFields = [] := by decide +kernel
  have accepted : ofValue (.object mixedFields) = .ok (ofFields mixedFields) := by
    rw [ofValue, clean]
  have once : ∀ field ∈ Field.all, ∀ key ∈ field.keys, ∀ key' ∈ field.keys,
      .plain key ∈ names mixedFields → .plain key' ∈ names mixedFields → key = key' := by
    decide +kernel
  refine ⟨accepted, by decide +kernel, ?_, reread accepted⟩
  rintro field one here two there ⟨key, known, rfl⟩ ⟨key', known', rfl⟩
  rw [once field (mem_all field) key known key' known' here there]

end DomainScout.Criteria
