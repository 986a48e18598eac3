/-! Cutting a text at a separator and joining the pieces again. `splitOn` keeps empty pieces, so `n`
    separators make `n + 1` pieces, and `joinWith` undoes it. -/

namespace TrustReplica.Text

/-- Puts a character in front of the first piece. -/
def consPiece (c : Char) : List (List Char) → List (List Char)
  | [] => [[c]]
  | piece :: rest => (c :: piece) :: rest

/-- The pieces of a list of characters between separators. -/
def splitOn (sep : Char) : List Char → List (List Char)
  | [] => [[]]
  | c :: rest => if c = sep then [] :: splitOn sep rest else consPiece c (splitOn sep rest)

/-- The pieces with a separator between each two. -/
def joinWith (sep : Char) : List (List Char) → List Char
  | [] => []
  | [piece] => piece
  | piece :: rest => piece ++ sep :: joinWith sep rest

/-- The pieces of a text between separators. -/
def pieces (sep : Char) (s : String) : List String := (splitOn sep s.toList).map String.ofList

/-- The text before the first separator and the text behind it, if there is one. -/
def cutAt (sep : Char) : List Char → List Char × Option (List Char)
  | [] => ([], none)
  | c :: rest => if c = sep then ([], some rest) else ((c :: (cutAt sep rest).1), (cutAt sep rest).2)

end TrustReplica.Text
