/-! Cutting texts at separators. There is always one part more than there are separators. -/
namespace PageFlow
namespace Text

def splitOn (separator : Char → Bool) : List Char → List (List Char)
  | [] => [[]]
  | c :: rest =>
    if separator c then [] :: splitOn separator rest
    else match splitOn separator rest with
      | part :: more => (c :: part) :: more
      | [] => [[c]]

def cut (at_ : Char) (cs : List Char) : List Char × Option (List Char) :=
  match cs.dropWhile (· ≠ at_) with
  | [] => (cs, none)
  | _ :: rest => (cs.takeWhile (· ≠ at_), some rest)

def cutLast (at_ : Char) (cs : List Char) : Option (List Char × List Char) :=
  match cut at_ cs.reverse with
  | (back, some front) => some (front.reverse, back.reverse)
  | (_, none) => none

end Text
end PageFlow
