import ChartParser.Forest.Choices
import Mathlib.Algebra.BigOperators.Group.List.Basic
import Mathlib.Data.List.Forall2

/-!
# The order of combinations

Combinations are numbered like the numbers of a mixed radix whose bases are the lengths of the
lists: the digits of the place at which a combination stands are the positions of its elements in
their lists. A list more extends every combination by each of the elements, which puts a digit at
the end of every place (`Numbered.extend`), and so the numbering holds after all lists
(`Numbered.foldl`). As positions are the digits of one place only, nothing is missing and nothing is
there too often.
-/

namespace ChartParser

/-! ## Mixed radix -/

/-- The digits of a number in the mixed radix with these bases, the most significant one first. -/
def digits : List Nat → Nat → List Nat
  | [], _ => []
  | base :: bases, number => number / bases.prod % base :: digits bases number

/-- A base more puts a digit at the end. -/
theorem digits_concat (bases : List Nat) (base number : Nat) :
    digits (bases ++ [base]) number = digits bases (number / base) ++ [number % base] := by
  induction bases with
  | nil => simp [digits]
  | cons first bases ih =>
    have quotient : number / (bases ++ [base]).prod = number / base / bases.prod := by
      rw [List.prod_append, List.prod_singleton, Nat.mul_comm, Nat.div_div_eq_div_mul]
    rw [List.cons_append, digits, ih, quotient, digits, List.cons_append]

/-- The digits do not show how often the number goes beyond what the bases can hold. -/
theorem digits_mul_add (bases : List Nat) (factor number : Nat) :
    digits bases (factor * bases.prod + number) = digits bases number := by
  induction bases generalizing factor with
  | nil => rfl
  | cons base bases ih =>
    have shifted : factor * (base :: bases).prod + number =
        factor * base * bases.prod + number := by
      rw [List.prod_cons, Nat.mul_assoc]
    have first : (factor * base * bases.prod + number) / bases.prod % base =
        number / bases.prod % base := by
      rcases Nat.eq_zero_or_pos bases.prod with none | some
      · rw [none, Nat.mul_zero, Nat.zero_add]
      · rw [Nat.add_comm, Nat.add_mul_div_right _ _ some, Nat.add_mul_mod_self_right]
    rw [shifted, digits, digits, first, ih]

/-- A leading digit stands for as many numbers as the other bases can hold. -/
theorem digits_cons_add {bases : List Nat} {base position rest : Nat} (small : position < base)
    (within : rest < bases.prod) :
    digits (base :: bases) (position * bases.prod + rest) = position :: digits bases rest := by
  have some : 0 < bases.prod := Nat.zero_lt_of_lt within
  have quotient : (position * bases.prod + rest) / bases.prod = position := by
    rw [Nat.add_comm, Nat.add_mul_div_right _ _ some, Nat.div_eq_of_lt within, Nat.zero_add]
  rw [digits, quotient, Nat.mod_eq_of_lt small, digits_mul_add]

/-- Digits below their bases are those of one number among the numbers that the bases can hold. -/
theorem existsUnique_digits {bases positions : List Nat}
    (below : List.Forall₂ (· < ·) positions bases) :
    ∃! number, number < bases.prod ∧ digits bases number = positions := by
  induction below with
  | nil => exact ⟨0, ⟨Nat.one_pos, rfl⟩, fun number inside => Nat.lt_one_iff.1 inside.1⟩
  | @cons position base positions bases small _ ih =>
    obtain ⟨rest, ⟨within, same⟩, unique⟩ := ih
    refine ⟨position * bases.prod + rest, ⟨?_, ?_⟩, fun number inside => ?_⟩
    · calc
        position * bases.prod + rest < position * bases.prod + bases.prod := by omega
        _ = (position + 1) * bases.prod := (Nat.succ_mul _ _).symm
        _ ≤ base * bases.prod := Nat.mul_le_mul_right _ small
        _ = (base :: bases).prod := List.prod_cons.symm
    · rw [digits_cons_add small within, same]
    · obtain ⟨numberWithin, numberSame⟩ := inside
      have some : 0 < bases.prod := Nat.zero_lt_of_lt within
      have parts : number / bases.prod * bases.prod + number % bases.prod = number :=
        Nat.div_add_mod' number bases.prod
      have leading : number / bases.prod < base := by
        rw [Nat.div_lt_iff_lt_mul some, ← List.prod_cons]
        exact numberWithin
      rw [← parts, digits_cons_add leading (Nat.mod_lt _ some)] at numberSame
      obtain ⟨first, others⟩ := List.cons.inj numberSame
      rw [← parts, first, unique _ ⟨Nat.mod_lt _ some, others⟩]

/-! ## Taking elements at positions -/

/-- The sequence takes from each list the element at its position. -/
inductive TakesAt {α : Type} : List (List α) → List Nat → List α → Prop
  | nil : TakesAt [] [] []
  | cons {list : List α} {lists : List (List α)} {position : Nat} {positions : List Nat}
      {element : α} {pick : List α} (found : list[position]? = some element)
      (rest : TakesAt lists positions pick) :
      TakesAt (list :: lists) (position :: positions) (element :: pick)

variable {α : Type}

namespace TakesAt

variable {lists : List (List α)} {list : List α} {positions : List Nat} {position : Nat}
  {pick other : List α} {element : α}

/-- An element of one more list goes to the end. -/
theorem concat (takes : TakesAt lists positions pick) (found : list[position]? = some element) :
    TakesAt (lists ++ [list]) (positions ++ [position]) (pick ++ [element]) := by
  induction takes with
  | nil => exact .cons found .nil
  | cons first _ ih => exact .cons first ih

/-- The positions are positions in the lists. -/
theorem positions_lt (takes : TakesAt lists positions pick) :
    List.Forall₂ (· < ·) positions (lists.map List.length) := by
  induction takes with
  | nil => exact .nil
  | cons found _ ih => exact .cons (List.getElem?_eq_some_iff.1 found).1 ih

/-- The elements are elements of the lists. -/
theorem elements (takes : TakesAt lists positions pick) : List.Forall₂ (· ∈ ·) pick lists := by
  induction takes with
  | nil => exact .nil
  | cons found _ ih => exact .cons (List.mem_of_getElem? found) ih

/-- The positions decide which elements are taken. -/
theorem unique (takes : TakesAt lists positions pick) (takesToo : TakesAt lists positions other) :
    pick = other := by
  induction takes generalizing other with
  | nil =>
    cases takesToo
    rfl
  | cons found _ ih =>
    cases takesToo with
    | cons foundToo rest =>
      obtain rfl := Option.some.inj (found.symm.trans foundToo)
      rw [ih rest]

end TakesAt

/-- Elements of the lists can be found at some positions. -/
theorem exists_takesAt {lists : List (List α)} {pick : List α}
    (elements : List.Forall₂ (· ∈ ·) pick lists) : ∃ positions, TakesAt lists positions pick := by
  induction elements with
  | nil => exact ⟨[], .nil⟩
  | cons inside _ ih =>
    obtain ⟨position, found⟩ := List.mem_iff_getElem?.1 inside
    obtain ⟨positions, rest⟩ := ih
    exact ⟨position :: positions, .cons found rest⟩

/-! ## The numbering -/

/-- The picks that start from one stand together, in the order of the choices. -/
theorem getElem?_extendBy (picks : List (List α)) (choices : List α) (place : Nat) :
    (extendBy picks choices)[place]? =
      picks[place / choices.length]?.bind fun pick =>
        choices[place % choices.length]?.map fun choice => pick ++ [choice] := by
  induction picks generalizing place with
  | nil => rfl
  | cons pick picks ih =>
    have parts : extendBy (pick :: picks) choices =
        choices.map (fun choice => pick ++ [choice]) ++ extendBy picks choices :=
      List.flatMap_cons
    rw [parts]
    rcases Nat.lt_or_ge place choices.length with within | beyond
    · rw [List.getElem?_append_left (by rwa [List.length_map]), Nat.div_eq_of_lt within,
        Nat.mod_eq_of_lt within, List.getElem?_map]
      rfl
    · obtain ⟨further, rfl⟩ := Nat.exists_eq_add_of_le beyond
      rw [List.getElem?_append_right (by rwa [List.length_map]), List.length_map,
        Nat.add_sub_cancel_left, ih]
      -- Without choices nothing is picked, and the division by their number does not matter.
      rcases Nat.eq_zero_or_pos choices.length with none | some
      · obtain rfl := List.length_eq_zero_iff.1 none
        simp
      · rw [Nat.add_div_left _ some, Nat.add_mod_left, List.getElem?_cons_succ]

/-- There is a pick for every pick and every choice. -/
theorem length_extendBy (picks : List (List α)) (choices : List α) :
    (extendBy picks choices).length = picks.length * choices.length := by
  simp [extendBy, List.length_flatMap, List.map_const']

/-- There are as many picks as the lengths of the lists multiply to, and the digits of the place of
each are the positions of its elements. -/
structure Numbered (lists picks : List (List α)) : Prop where
  length_eq : picks.length = (lists.map List.length).prod
  takes : ∀ {place : Nat} {pick : List α}, picks[place]? = some pick →
    TakesAt lists (digits (lists.map List.length) place) pick

namespace Numbered

variable {lists picks : List (List α)}

/-- The elements of one list are numbered by their positions. -/
theorem single (first : List α) : Numbered [first] (first.map ([·])) where
  length_eq := by simp
  takes := by
    intro place pick found
    rw [List.getElem?_map] at found
    obtain ⟨element, inside, rfl⟩ := Option.map_eq_some_iff.1 found
    have within : place < first.length := (List.getElem?_eq_some_iff.1 inside).1
    have position : digits [first.length] place = [place] := by
      rw [digits, List.prod_nil, Nat.div_one, Nat.mod_eq_of_lt within, digits]
    exact position.symm ▸ .cons inside .nil

/-- Picks stay numbered when they are extended by the elements of one more list. -/
theorem extend (numbered : Numbered lists picks) (choices : List α) :
    Numbered (lists ++ [choices]) (extendBy picks choices) where
  length_eq := by
    rw [length_extendBy, numbered.length_eq, List.map_append, List.prod_append, List.map_singleton,
      List.prod_singleton]
  takes := by
    intro place pick found
    rw [getElem?_extendBy] at found
    obtain ⟨before, foundBefore, extended⟩ := Option.bind_eq_some_iff.1 found
    obtain ⟨choice, foundChoice, rfl⟩ := Option.map_eq_some_iff.1 extended
    rw [List.map_append, List.map_singleton, digits_concat]
    exact (numbered.takes foundBefore).concat foundChoice

/-- Picks stay numbered when they are extended by all the lists that follow. -/
theorem foldl (numbered : Numbered lists picks) (rest : List (List α)) :
    Numbered (lists ++ rest) (rest.foldl extendBy picks) := by
  induction rest generalizing lists picks with
  | nil => rwa [List.append_nil]
  | cons choices rest ih =>
    have further := ih (numbered.extend choices)
    rwa [List.append_assoc] at further

end Numbered

/-- The combinations of some lists are numbered. -/
theorem numbered_combinations {lists : List (List α)} (nonempty : lists ≠ []) :
    Numbered lists (combinations lists) := by
  cases lists with
  | nil => exact absurd rfl nonempty
  | cons first rest => exact (Numbered.single first).foldl rest

/-- Positions in the lists belong to one of the picks, at one place. -/
theorem Numbered.existsUnique {lists picks : List (List α)} (numbered : Numbered lists picks)
    {positions : List Nat} {pick : List α} (takes : TakesAt lists positions pick) :
    ∃! place, picks[place]? = some pick ∧ digits (lists.map List.length) place = positions := by
  obtain ⟨place, ⟨within, same⟩, unique⟩ := existsUnique_digits takes.positions_lt
  rw [← numbered.length_eq] at within
  have there : picks[place]? = some picks[place] := List.getElem?_eq_getElem within
  have taken : picks[place] = pick := (same ▸ numbered.takes there).unique takes
  refine ⟨place, ⟨taken ▸ there, same⟩, fun other ⟨found, sameToo⟩ => unique other ⟨?_, sameToo⟩⟩
  rw [← numbered.length_eq]
  exact (List.getElem?_eq_some_iff.1 found).1

/-- Combinations are the ordered product of the lists. They are the sequences that take one element
from each list; there are as many as the lengths multiply to; the one at a place takes from each
list the element at the corresponding digit of the place, in the mixed radix of the lengths with the
first list for its most significant digit; and each choice of positions in the lists has one place.
-/
theorem combinations_ordered {lists : List (List α)} (nonempty : lists ≠ []) :
    (∀ pick, pick ∈ combinations lists ↔ List.Forall₂ (· ∈ ·) pick lists) ∧
    (combinations lists).length = (lists.map List.length).prod ∧
    (∀ place < (lists.map List.length).prod, ∃ pick, (combinations lists)[place]? = some pick ∧
      TakesAt lists (digits (lists.map List.length) place) pick) ∧
    ∀ positions pick, TakesAt lists positions pick → ∃! place,
      (combinations lists)[place]? = some pick ∧
        digits (lists.map List.length) place = positions := by
  have numbered := numbered_combinations nonempty
  refine ⟨fun pick => ⟨fun inside => ?_, fun elements => ?_⟩, numbered.length_eq,
    fun place within => ?_, fun positions pick takes => numbered.existsUnique takes⟩
  · obtain ⟨place, found⟩ := List.mem_iff_getElem?.1 inside
    exact (numbered.takes found).elements
  · obtain ⟨positions, takes⟩ := exists_takesAt elements
    obtain ⟨place, ⟨found, -⟩, -⟩ := numbered.existsUnique takes
    exact List.mem_of_getElem? found
  · rw [← numbered.length_eq] at within
    have there := List.getElem?_eq_getElem within
    exact ⟨_, there, numbered.takes there⟩

/-- Choices of which one is offered twice. -/
def repeatedChoices : List (List Nat) := [[1, 2], [5, 5], [7, 8, 9]]

/-- The combination at place 10, whose digits are 1, 1 and 1, also stands at the place with the
digits 1, 0 and 1. -/
theorem combinations_repeatedChoices :
    repeatedChoices ≠ [] ∧ 10 < (repeatedChoices.map List.length).prod ∧
    (combinations repeatedChoices)[10]? = some [2, 5, 8] ∧
    TakesAt repeatedChoices [1, 1, 1] [2, 5, 8] ∧ TakesAt repeatedChoices [1, 0, 1] [2, 5, 8] ∧
    ∃! place, (combinations repeatedChoices)[place]? = some [2, 5, 8] ∧
      digits (repeatedChoices.map List.length) place = [1, 0, 1] := by
  have nonempty : repeatedChoices ≠ [] := by decide
  have within : 10 < (repeatedChoices.map List.length).prod := by decide
  have takesToo : TakesAt repeatedChoices [1, 0, 1] [2, 5, 8] :=
    .cons rfl (.cons rfl (.cons rfl .nil))
  obtain ⟨-, -, numbered, each⟩ := combinations_ordered nonempty
  obtain ⟨pick, found, takes⟩ := numbered 10 within
  obtain rfl : [2, 5, 8] = pick := Option.some.inj found
  exact ⟨nonempty, within, found, takes, takesToo, each _ _ takesToo⟩

example : combinations [["a", "b"], ["x"], ["1", "2"]] =
    [["a", "x", "1"], ["a", "x", "2"], ["b", "x", "1"], ["b", "x", "2"]] := rfl

end ChartParser
