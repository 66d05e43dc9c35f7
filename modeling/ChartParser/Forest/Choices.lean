/-!
# Choices

Picking one element from each of several lists, in every possible way. The lists are taken up one
after the other: every pick from the lists so far is extended by every element of the next. So the
first list varies slowest.
-/

namespace ChartParser

variable {α : Type}

/-- Each of these picks extended by each of the choices. -/
def extendBy (picks : List (List α)) (choices : List α) : List (List α) :=
  picks.flatMap fun pick => choices.map fun choice => pick ++ [choice]

/-- The sequences that take one element from each list; with no list at all, none. -/
def combinations : List (List α) → List (List α)
  | [] => []
  | first :: rest => rest.foldl extendBy (first.map ([·]))

end ChartParser
