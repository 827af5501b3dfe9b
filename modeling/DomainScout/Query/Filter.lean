import DomainScout.Query.Lifecycle

/-!
# Filters

Every filter compiles on its own to conditions that all have to hold. A filter whose column is
missing compiles to none.
-/
namespace DomainScout.Query

open Sql Criteria

/-- The filters, one for each group of conditions. -/
inductive Filter where
  | startsWith
  | endsWith
  | tld
  | lifecycle
  | createdFrom
  | createdTo
  | age
  | country
  | registrar
  | technologies
  | responseStatus
  | hostsMin
  | hostsMax
  | expiresFrom
  | expiresTo
  | waybackMin
  | safeSpamhaus
  | safeViews
  deriving DecidableEq

/-- The filters in the order of their conditions. -/
def Filter.all : List Filter :=
  [.startsWith, .endsWith, .tld, .lifecycle, .createdFrom, .createdTo, .age, .country, .registrar,
   .technologies, .responseStatus, .hostsMin, .hostsMax, .expiresFrom, .expiresTo, .waybackMin,
   .safeSpamhaus, .safeViews]

/-- A top-level domain without blanks around it and dots before it, in lower case. -/
def normalizeTld (term : String) : String :=
  String.ofList (Text.lowerChars ((Text.trimBoth Text.isBlank term.toList).dropWhile (· == '.')))

/-- The top-level domains to look in. -/
def tldTerms (criteria : Criteria) : List String :=
  (criteria.tlds.map normalizeTld).filter (· ≠ "")

/-- A text filter that is set to something. -/
def given? (criteria : Criteria) (field : TextField) : Option String :=
  (criteria.text field).filter (· ≠ "")

/-- The condition of a text filter on a column, if both are there. -/
def onColumn (column text : Option String) (condition : String → String → Predicate) :
    List Predicate :=
  match column, text with
  | some column, some text => [condition column text]
  | _, _ => []

/-- The name of a column with a fixed name, as the table spells it. -/
def Target.fixed? (target : Target) (name : String) : Option String :=
  (target.catalog.column? name).map Column.name

/-- The column's text matches a pattern made from the filter's text. -/
def columnLike (toPattern : String → String) (column text : String) : Predicate :=
  .compare (.column column) .ilike (pattern (toPattern text))

/-- The column, read as a type, compares with the filter's text as that type. -/
def columnReads (type : SqlType) (comparison : Comparison) (column text : String) : Predicate :=
  .compare (readAs type column) comparison (.cast (.bound (.text text)) type)

/-- The filter's text stands at the start. -/
def startPattern (s : String) : String := s ++ "%"

/-- The filter's text stands at the end. -/
def endPattern (s : String) : String := "%" ++ s

/-- The filter's text stands anywhere. -/
def insidePattern (s : String) : String := "%" ++ s ++ "%"

/-- The domain ends in a top-level domain. -/
def domainUnder (column term : String) : Predicate :=
  .compare (.lowered (.column column)) .like (pattern ("%." ++ term))

/-- The top-level domain is one of some terms: told by its own column, or else by the domain. -/
def tldConditions (target : Target) : List String → List Predicate
  | [] => []
  | term :: more =>
    match target.roles.column? .tld, target.roles.column? .domain with
    | some column, _ => [.among (.column column) (term :: more)]
    | none, some column => [.group (.anyOf (domainUnder column term) (more.map (domainUnder column)))]
    | none, none => []

/-- A number of years back from today. -/
def yearsBack (years : Int) : Term := .yearsAgo (.cast (.bound (.int years)) .integer)

/-- Two ages in order, the smaller one first; a missing one stays missing. -/
def orderedAges : Option Int → Option Int → Option Int × Option Int
  | some low, some high => if low > high then (some high, some low) else (some low, some high)
  | low, high => (low, high)

/-- The domain is at least and at most so many years old. -/
def ageConditions (criteria : Criteria) (column : String) : List Predicate :=
  let created := readAs .date column
  let (least, most) :=
    orderedAges (years? (criteria.text .ageYearsFrom)) (years? (criteria.text .ageYearsTo))
  (least.map fun n => Predicate.compare created .le (yearsBack n)).toList
    ++ (most.map fun n => Predicate.compare created .ge (yearsBack n)).toList

/-- The column's flag is not set: a truth value is not true; anything else is empty or a number
that is not positive. -/
def notFlagged (target : Target) (column : String) : Predicate :=
  if target.catalog.isBoolean column then .ask (.column column) .isNotTrue
  else .group (.or (.ask (filledText column) .isNull)
    (.compare (readAs .integer column) .le .zero))

/-- The condition of a safety flag. -/
def safetyConditions (target : Target) (on : Bool) (role : Role) : List Predicate :=
  if on then ((target.roles.column? role).map (notFlagged target)).toList else []

/-- The conditions of a filter. -/
def Filter.conditions (target : Target) (criteria : Criteria) : Filter → List Predicate
  | startsWith =>
    onColumn (target.roles.column? .domain) (given? criteria .domainStartsWith)
      (columnLike startPattern)
  | endsWith =>
    onColumn (target.roles.column? .domain) (given? criteria .domainEndsWith)
      (columnLike endPattern)
  | tld => tldConditions target (tldTerms criteria)
  | lifecycle =>
    match criteria.lifecycle with
    | some state =>
      lifecycleConditions state (daysOfText (criteria.text .expiringWithinDays)) target
    | none => []
  | createdFrom =>
    onColumn (target.roles.column? .created) (given? criteria .creationDateFrom)
      (columnReads .date .ge)
  | createdTo =>
    onColumn (target.roles.column? .created) (given? criteria .creationDateTo)
      (columnReads .date .le)
  | age => ((target.roles.column? .created).map (ageConditions criteria)).getD []
  | country =>
    onColumn (target.fixed? "country_by_ip") (given? criteria .countryByIp)
      fun column text => .compare (.column column) .eq (.bound (.text text))
  | registrar =>
    onColumn (target.fixed? "registrar") (given? criteria .registrarContains)
      (columnLike insidePattern)
  | technologies =>
    onColumn (target.fixed? "technologies") (given? criteria .technologiesContains)
      (columnLike insidePattern)
  | responseStatus =>
    onColumn (target.fixed? "response_status") (given? criteria .responseStatusContains)
      (columnLike insidePattern)
  | hostsMin =>
    onColumn (target.fixed? "detected_hosts") (given? criteria .detectedHostsMin)
      (columnReads .integer .ge)
  | hostsMax =>
    onColumn (target.fixed? "detected_hosts") (given? criteria .detectedHostsMax)
      (columnReads .integer .le)
  | expiresFrom =>
    onColumn (target.roles.column? .expires) (given? criteria .expirationFrom)
      (columnReads .timestamp .ge)
  | expiresTo =>
    onColumn (target.roles.column? .expires) (given? criteria .expirationTo)
      (columnReads .timestamp .le)
  | waybackMin =>
    onColumn (target.roles.column? .wayback) (given? criteria .waybackMinSnapshots)
      fun column text => .compare (countOf column) .ge (.cast (.bound (.text text)) .integer)
  | safeSpamhaus => safetyConditions target criteria.safeSpamhausOnly .spamhaus
  | safeViews => safetyConditions target criteria.safeViewsTotalOnly .viewsTotal

end DomainScout.Query
