import ChartParser.Forest.Arena

/-!
# Counting the trees of a forest

Families of a node add up and the two sides of a family multiply. A node that is met again on the
way down to it is cut and counts nothing. A count below which nothing was cut does not depend on
the way and is remembered. Counts stop growing at the largest number of 64 bits.
-/

namespace ChartParser

/-- The largest count. -/
def maxCount : Nat := UInt64.size - 1

/-- The counts remembered so far, by node. -/
abbrev CountMemo := Array (Option Nat)

/-- A count, and whether something below was cut. -/
structure Count where
  total : Nat
  cut : Bool
deriving DecidableEq, Repr

namespace Count

/-- The sum of two counts. -/
def add (before after : Count) : Count :=
  ⟨min (before.total + after.total) maxCount, before.cut || after.cut⟩

/-- The product of two counts. -/
def times (before after : Count) : Count :=
  ⟨min (before.total * after.total) maxCount, before.cut || after.cut⟩

/-- The counts remembered once the count of the node is known: a count with a cut is not kept. -/
def remember (count : Count) (id : NodeId) (memo : CountMemo) : CountMemo :=
  if count.cut then memo else memo.setIfInBounds id (some count.total)

end Count

/-- What counting a node gives: its count and the counts remembered, or nothing if some node below
does not exist. -/
abbrev Counting := CountMemo → Option (Count × CountMemo)

namespace Children

/-- The count of what these nodes derive together, given the count of each. The right side is not
looked at when the left one counts nothing. -/
def count (below : NodeId → Counting) (children : Children) : Counting := fun memo =>
  match children with
  | empty => some (⟨1, false⟩, memo)
  | one child => below child memo
  | two left right =>
    match below left memo with
    | none => none
    | some (before, memo) =>
      if before.total = 0 then some (before, memo)
      else
        match below right memo with
        | none => none
        | some (after, memo) => some (before.times after, memo)

end Children

/-- The count so far with those of the families added, given the count of each node. -/
def Family.countAll (below : NodeId → Counting) : List Family → Count → Counting
  | [], sum, memo => some (sum, memo)
  | family :: rest, sum, memo =>
    match family.children.count below memo with
    | none => none
    | some (next, memo) => countAll below rest (sum.add next) memo

namespace Arena

/-- The count below a node that is reached through the nodes of `path`, going down at most `depth`
nodes; nothing if some node does not exist. -/
def countWithin (arena : Arena) : Nat → List NodeId → NodeId → Counting
  | 0, _, _, _ => none
  | depth + 1, path, id, memo =>
    match memo[id]?.join, arena.nodes[id]? with
    | some total, _ => some (⟨total, false⟩, memo)
    | none, none => none
    | none, some node =>
      if node.isToken then some (⟨1, false⟩, memo)
      else if meets path id then some (⟨0, true⟩, memo)
      else
        let below := countWithin arena depth (id :: path)
        match Family.countAll below node.families ⟨0, false⟩ memo with
        | none => none
        | some (count, memo) => some (count, count.remember id memo)

/-- The count below a node. No way down meets more nodes than there are before it is cut. -/
def count? (arena : Arena) (id : NodeId) : Option Nat :=
  (arena.countWithin (arena.size + 1) [] id (Array.replicate arena.size none)).map (·.1.total)

end Arena

namespace Forest

/-- The number of trees, if all nodes that are looked at exist. -/
def count? (forest : Forest) : Option Nat := forest.arena.count? forest.root

/-- Whether there is more than one tree, if all nodes that are looked at exist. -/
def isAmbiguous? (forest : Forest) : Option Bool := forest.count?.map (· > 1)

end Forest

end ChartParser
