/-! Paths as texts: their parts, and the name and extension of what they lead to. -/

namespace Liveness.Files

/-- The parts of a path between slashes; a slash at either end leaves an empty part. -/
def parts : List Char → List (List Char)
  | [] => [[]]
  | c :: cs =>
    match parts cs with
    | [] => [[c]]
    | p :: ps => if c = '/' then [] :: p :: ps else (c :: p) :: ps

/-- The parts that are more than a stay in place. -/
def steps (path : String) : List (List Char) :=
  (parts path.toList).filter fun p => p ≠ [] && p ≠ ['.']

/-- The name at the end of a path; a path that ends by going up has none. -/
def fileName? (path : String) : Option (List Char) :=
  (steps path).getLast?.filter (· ≠ ['.', '.'])

/-- What follows the last dot of a name, unless that dot is also its first character. -/
def extension? (name : List Char) : Option (List Char) :=
  let after := (name.reverse.takeWhile (· ≠ '.')).reverse
  if after.length + 1 < name.length then some after else none

end Liveness.Files
