import ChartParser.Grammar.Check
import Mathlib.Data.List.Nodup

/-!
# Rounds that let a set grow

The check of a grammar collects nonterminals in rounds over all productions, until a round finds
nothing new. A round only puts nonterminals in front of those it has, so what every single step
keeps is kept by all rounds together (`foldl_keeps`, `saturate_induction`). There are finitely many
nonterminals, so the rounds come to an end before they run out (`saturate_fixed`), and a round that
finds nothing has tried every production in vain (`step_eq_of_foldl_eq`).
-/

namespace ChartParser.Grammar

variable {set : List NonterminalId} {id : NonterminalId}

/-! ## Sets that grow in front -/

/-- A set with one more member has that member besides its own. -/
theorem mem_insertNew {member : Nat} : member ∈ insertNew set id ↔ member = id ∨ member ∈ set := by
  unfold insertNew
  split
  · rename_i inside
    constructor
    · exact Or.inr
    · rintro (rfl | old)
      · exact inside
      · exact old
  · exact List.mem_cons

/-- A new member stands in front of the others. -/
theorem suffix_insertNew (set : List Nat) (id : Nat) : set <:+ insertNew set id := by
  unfold insertNew
  split
  · exact List.suffix_refl set
  · exact List.suffix_cons id set

/-- A set has no member twice when one is added. -/
theorem nodup_insertNew (once : set.Nodup) : (insertNew set id).Nodup := by
  unfold insertNew
  split
  · exact once
  · rename_i absent
    exact List.nodup_cons.2 ⟨absent, once⟩

/-- Steps that only add in front do so all together. -/
theorem suffix_foldl {α : Type} {step : List Nat → α → List Nat}
    (grows : ∀ set element, set <:+ step set element) (elements : List α) (set : List Nat) :
    set <:+ elements.foldl step set := by
  induction elements generalizing set with
  | nil => exact List.suffix_refl set
  | cons element elements ih => exact (grows set element).trans (ih (step set element))

/-- If steps that only add in front have added nothing together, each of them adds nothing. -/
theorem step_eq_of_foldl_eq {α : Type} {step : List Nat → α → List Nat}
    (grows : ∀ set element, set <:+ step set element) {elements : List α} {set : List Nat}
    (same : elements.foldl step set = set) : ∀ element ∈ elements, step set element = set := by
  induction elements with
  | nil => simp
  | cons element elements ih =>
    rw [List.foldl_cons] at same
    have later := suffix_foldl grows elements (step set element)
    rw [same] at later
    have first : step set element = set := List.IsSuffix.eq_of_length later
      (Nat.le_antisymm later.length_le (grows set element).length_le)
    rw [first] at same
    exact List.forall_mem_cons.2 ⟨first, ih same⟩

/-- What single steps keep is kept by all of them together. -/
theorem foldl_keeps {α : Type} {motive : List Nat → Prop} {step : List Nat → α → List Nat}
    {elements : List α} (kept : ∀ element ∈ elements, ∀ set, motive set → motive (step set element))
    {set : List Nat} (start : motive set) : motive (elements.foldl step set) := by
  induction elements generalizing set with
  | nil => exact start
  | cons element elements ih =>
    have first := kept element List.mem_cons_self set start
    exact ih (fun other inside => kept other (List.mem_cons_of_mem _ inside)) first

/-! ## Repeated rounds -/

/-- What a step keeps is kept by repeating it. -/
theorem saturate_induction {motive : List Nat → Prop} {step : List Nat → List Nat}
    (kept : ∀ set, motive set → motive (step set)) (rounds : Nat) {set : List Nat}
    (start : motive set) : motive (saturate step rounds set) := by
  induction rounds generalizing set with
  | zero => exact start
  | succ rounds ih =>
    rw [saturate]
    split
    · exact start
    · exact ih (kept set start)

/-- A step that adds in front to a set of bounded size, repeated more often than the set can grow,
comes to a set that it adds nothing to. -/
theorem saturate_fixed {motive : List Nat → Prop} {step : List Nat → List Nat} {bound : Nat}
    (grows : ∀ set, set <:+ step set) (kept : ∀ set, motive set → motive (step set))
    (bounded : ∀ set, motive set → set.length ≤ bound) {rounds : Nat} {set : List Nat}
    (start : motive set) (enough : bound < set.length + rounds) :
    step (saturate step rounds set) = saturate step rounds set ∧
      set <:+ saturate step rounds set := by
  induction rounds generalizing set with
  | zero =>
    have most := bounded set start
    omega
  | succ rounds ih =>
    unfold saturate
    have front := grows set
    by_cases same : (step set).length = set.length
    · rw [if_pos same]
      have fixed : step set = set := (front.eq_of_length same.symm).symm
      exact ⟨fixed, List.suffix_refl set⟩
    · rw [if_neg same]
      have longer : set.length < (step set).length :=
        Nat.lt_of_le_of_ne front.length_le (Ne.symm same)
      obtain ⟨fixed, later⟩ := ih (kept set start) (by omega)
      exact ⟨fixed, front.trans later⟩

/-- A set without repetitions, all of whose members are among the places. -/
def Distinct (places set : List Nat) : Prop := set.Nodup ∧ set ⊆ places

/-- Such a set has no more members than there are places. -/
theorem Distinct.length_le {places : List Nat} (distinct : Distinct places set) :
    set.length ≤ places.length :=
  distinct.1.length_le_of_subset distinct.2

/-- A member from the places may be added to such a set. -/
theorem Distinct.insertNew {places : List Nat} (distinct : Distinct places set)
    (inside : id ∈ places) : Distinct places (insertNew set id) := by
  refine ⟨nodup_insertNew distinct.1, fun member added => ?_⟩
  rcases mem_insertNew.1 added with rfl | old
  · exact inside
  · exact distinct.2 old

/-- Rounds of steps that add in front, and only members from finitely many places, come to a set
that none of the steps adds to. -/
theorem saturate_foldl_fixed {α : Type} {step : List Nat → α → List Nat} {elements : List α}
    {places : List Nat} (grows : ∀ set element, set <:+ step set element)
    (kept : ∀ element ∈ elements, ∀ set, Distinct places set → Distinct places (step set element))
    {rounds : Nat} (start : Distinct places set) (enough : places.length < set.length + rounds) :
    set <:+ saturate (elements.foldl step) rounds set ∧ ∀ element ∈ elements,
      step (saturate (elements.foldl step) rounds set) element =
        saturate (elements.foldl step) rounds set := by
  have roundGrows : ∀ set, set <:+ elements.foldl step set := suffix_foldl grows elements
  have roundKept : ∀ set, Distinct places set → Distinct places (elements.foldl step set) :=
    fun _ distinct => foldl_keeps kept distinct
  obtain ⟨fixed, front⟩ :=
    saturate_fixed roundGrows roundKept (fun _ => Distinct.length_le) start enough
  exact ⟨front, step_eq_of_foldl_eq grows fixed⟩

end ChartParser.Grammar
