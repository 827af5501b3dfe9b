/-!
# Parts of a text

A text is cut at separators into pieces, and the pieces that are not empty are the maximal runs of
other characters.
-/
namespace DomainScout.Text

/-- The pieces between single separators, empty pieces included. -/
def pieces (separator : Char → Bool) : List Char → List (List Char)
  | [] => [[]]
  | c :: rest =>
    if separator c then [] :: pieces separator rest
    else match pieces separator rest with
      | [] => [[c]]
      | piece :: more => (c :: piece) :: more

/-- The maximal runs of characters that are not separators, in order. -/
def runs (separator : Char → Bool) (cs : List Char) : List (List Char) :=
  (pieces separator cs).filter fun piece => !piece.isEmpty

/-- A text stands somewhere inside another. -/
def occursIn (part : List Char) : List Char → Bool
  | [] => part.isEmpty
  | c :: rest => part.isPrefixOf (c :: rest) || occursIn part rest

end DomainScout.Text
