/-!
# Names in two spellings

The names of fields and roles are kept with underscores between their words. Clients write them
with a capital letter in place of each underscore.
-/
namespace DomainScout.Text

/-- Join the words of a name, the first letter of every word but the first in upper case. -/
def camelChars : List Char → List Char
  | '_' :: c :: rest => c.toUpper :: camelChars rest
  | c :: rest => c :: camelChars rest
  | [] => []

/-- A name with its words joined. -/
def camelCase (name : String) : String := String.ofList (camelChars name.toList)

example : camelCase "country_by_ip" = "countryByIp" := by decide +kernel

end DomainScout.Text
