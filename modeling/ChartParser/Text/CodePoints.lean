/-!
# Code point tables

A character property is a list of code point ranges in increasing order, and a case mapping a list
of rows in increasing order. Both are searched from the front and given up as soon as the
remaining entries lie beyond the code point, so that plain ASCII never walks a whole table. The
tables hold the properties of Unicode 17.
-/

namespace ChartParser.Text

/-- The code points from `first` to `last`, both included. -/
structure CodeRange where
  first : Nat
  last : Nat
deriving DecidableEq, Repr

/-- Whether a code point lies in one of the ranges, which are in increasing order. -/
def rangesContain : List CodeRange → Nat → Bool
  | [], _ => false
  | range :: rest, code =>
    if code < range.first then false
    else if code ≤ range.last then true
    else rangesContain rest code

/-- Whether a character lies in one of the ranges, which are in increasing order. -/
def inRanges (ranges : List CodeRange) (c : Char) : Bool := rangesContain ranges c.toNat

/-- A row of a case mapping: every `step`-th code point from `first` to `last` is moved by as much
as `first` is moved to reach `target`. -/
structure MapRow where
  first : Nat
  last : Nat
  step : Nat
  target : Nat
deriving DecidableEq, Repr

/-- The image of a code point under the rows, which are in increasing order, if some row has it. -/
def mapRows? : List MapRow → Nat → Option Nat
  | [], _ => none
  | row :: rest, code =>
    if code < row.first then none
    else if code ≤ row.last && (code - row.first) % row.step == 0 then
      some (row.target + (code - row.first))
    else mapRows? rest code

/-- The image of a character: its expansion if it has one, else its image under the rows, else the
character itself. -/
def mapThrough (expansions : List (Nat × List Nat)) (rows : List MapRow) (c : Char) : List Char :=
  match expansions.lookup c.toNat with
  | some codes => codes.map Char.ofNat
  | none =>
    match mapRows? rows c.toNat with
    | some code => [Char.ofNat code]
    | none => [c]

end ChartParser.Text
