import ChartParser.Forest.Arena
import ChartParser.Proofs.Grammar.Derivation

/-!
# Ways down a derivation

A way down a derivation leads from its top to a token or to a constituent without children. In a
forest it meets a node for every constituent on it, and besides these the nodes for the beginnings
of productions: behind the last symbol of a production lies the node for all symbols before it, if
they are several, and behind that the node for one symbol less (`Derivation.ways`). Which nodes
these are can be said of the derivation alone, because a node is known by what it stands for.
-/

namespace ChartParser

/-- The nonterminal that a production belongs to, zero for an unknown production. -/
def Grammar.lhsOf (g : Grammar) (rule : ProductionId) : NonterminalId :=
  (g.productions[rule]?.map (·.lhs)).getD 0

/-- A production belongs to its left-hand side. -/
theorem Grammar.lhsOf_eq {g : Grammar} {rule : ProductionId} {production : Production}
    (found : g.productions[rule]? = some production) : g.lhsOf rule = production.lhs := by
  rw [lhsOf, found]
  rfl

/-- Whether nodes of this key stand for constituents. -/
def NodeKey.isConstituent (key : NodeKey) : Bool :=
  match key.label with
  | .nonterminal _ => true
  | _ => false

namespace Derivation

/-- The ways to the first `dot` symbols of a production, which end at `stop`, from where these are
met together: a single symbol stands for itself, and several have a node. -/
def gather (g : Grammar) (rule : ProductionId) (start stop : Nat) (dot : Nat)
    (ways : List (List NodeKey)) : List (List NodeKey) :=
  match dot with
  | 0 => []
  | 1 => ways
  | dot => ways.map (⟨⟨start, stop⟩, .progress (g.lhsOf rule) rule dot⟩ :: ·)

/-- Where several derivations stop that stand side by side. -/
def stopOf (start : Nat) (derivations : List Derivation) : Nat :=
  derivations.foldl (fun _ derivation => derivation.span.stop) start

mutual

/-- The keys of the nodes met on each way down the derivation, tokens left out. -/
def ways (g : Grammar) : Derivation → List (List NodeKey)
  | token _ _ => [[]]
  | branch rule span children =>
    (waysThrough g rule span.start span.start 0 [[]] children).map
      (⟨span, .nonterminal (g.lhsOf rule)⟩ :: ·)

/-- The ways down to the symbols of a production, where `before` are those to the first `dot`
symbols, which end at `stop`. -/
def waysThrough (g : Grammar) (rule : ProductionId) (start stop : Nat) (dot : Nat)
    (before : List (List NodeKey)) : List Derivation → List (List NodeKey)
  | [] => before
  | child :: rest =>
    waysThrough g rule start child.span.stop (dot + 1)
      (gather g rule start stop dot before ++ ways g child) rest

end

/-- The ways down to the symbols of a production that starts there, given their derivations. -/
def bodyWays (g : Grammar) (rule : ProductionId) (start : Nat) (body : List Derivation) :
    List (List NodeKey) :=
  waysThrough g rule start start 0 [[]] body

variable {g : Grammar} {rule : ProductionId} {start stop dot : Nat}
  {before : List (List NodeKey)} {body : List Derivation} {last : Derivation}

/-- The ways down a branch meet its own node and go on to its symbols. -/
theorem ways_branch (span : Span) (children : List Derivation) :
    (branch rule span children).ways g =
      (bodyWays g rule span.start children).map (⟨span, .nonterminal (g.lhsOf rule)⟩ :: ·) := by
  rw [ways, bodyWays]

/-- The ways to the symbols before the last one go through the node for them. -/
theorem waysThrough_append_singleton :
    waysThrough g rule start stop dot before (body ++ [last]) =
      gather g rule start (stopOf stop body) (dot + body.length)
        (waysThrough g rule start stop dot before body) ++ last.ways g := by
  induction body generalizing stop dot before with
  | nil => simp only [List.nil_append, waysThrough, stopOf, List.foldl_nil, List.length_nil,
      Nat.add_zero]
  | cons child body ih =>
    rw [List.cons_append, waysThrough, ih, waysThrough, List.length_cons, Nat.add_right_comm dot 1,
      ← Nat.add_assoc]
    rfl

/-- A production without symbols has one way, which ends there. -/
theorem bodyWays_nil : bodyWays g rule start [] = [[]] := by
  rw [bodyWays, waysThrough]

/-- The ways to the only symbol of a production are its own. -/
theorem bodyWays_singleton : bodyWays g rule start [last] = last.ways g := by
  rw [bodyWays, waysThrough, waysThrough]
  rfl

/-- The ways to the symbols of a production are those to all but the last, through their node if
they are several, and those to the last. -/
theorem bodyWays_append_singleton :
    bodyWays g rule start (body ++ [last]) =
      gather g rule start (stopOf start body) body.length (bodyWays g rule start body) ++
        last.ways g := by
  rw [bodyWays, waysThrough_append_singleton, Nat.zero_add, bodyWays]

mutual

/-- There is a way down every derivation. -/
theorem ways_ne_nil (g : Grammar) : ∀ derivation : Derivation, derivation.ways g ≠ []
  | token _ _ => by
    rw [ways]
    exact List.cons_ne_nil _ _
  | branch rule span children => by
    rw [ways]
    intro none
    exact waysThrough_ne_nil g rule children (List.cons_ne_nil _ _) (List.map_eq_nil_iff.1 none)

/-- There is a way to the symbols of a production, also if there are none. -/
theorem waysThrough_ne_nil (g : Grammar) (rule : ProductionId) :
    ∀ (body : List Derivation) {start stop dot : Nat} {before : List (List NodeKey)},
      before ≠ [] → waysThrough g rule start stop dot before body ≠ []
  | [], _, _, _, _, present => by
    rw [waysThrough]
    exact present
  | child :: rest, _, _, _, _, _ => by
    rw [waysThrough]
    refine waysThrough_ne_nil g rule rest ?_
    intro none
    exact ways_ne_nil g child (List.append_eq_nil_iff.1 none).2

end

/-- There is a way to the symbols of a production, also if there are none. -/
theorem bodyWays_ne_nil : bodyWays g rule start body ≠ [] :=
  waysThrough_ne_nil g rule body (List.cons_ne_nil _ _)

end Derivation

/-- Derivations side by side stop where the last symbol does. -/
theorem Grammar.Spells.stopOf_eq {g : Grammar} {fits : Nat → TerminalId → Bool}
    {symbols : List Symbol} {start stop : Nat} {derivations : List Derivation}
    (spelled : g.Spells fits symbols start stop derivations) :
    Derivation.stopOf start derivations = stop := by
  unfold Derivation.stopOf
  induction spelled with
  | nil => rfl
  | token _ _ ih => exact ih
  | branch _ _ _ _ ih => exact ih

/-- If no production has more than two symbols, ways down a derivation meet constituents only. -/
theorem Grammar.Spells.isConstituent_of_short {g : Grammar} {fits : Nat → TerminalId → Bool}
    (short : ∀ {rule : ProductionId} {production : Production},
      g.productions[rule]? = some production → production.length ≤ 2)
    {symbols : List Symbol} {start stop : Nat} {derivations : List Derivation}
    (spelled : g.Spells fits symbols start stop derivations) :
    ∀ derivation ∈ derivations, ∀ way ∈ derivation.ways g, ∀ key ∈ way,
      key.isConstituent = true := by
  induction spelled with
  | nil => simp
  | token _ _ ih =>
    refine List.forall_mem_cons.2 ⟨fun way inside => ?_, ih⟩
    rw [Derivation.ways] at inside
    obtain rfl := List.mem_singleton.1 inside
    simp
  | @branch rule production _ start middle _ children _ found body _ ihBody ihRest =>
    refine List.forall_mem_cons.2 ⟨fun way inside => ?_, ihRest⟩
    rw [Derivation.ways_branch] at inside
    obtain ⟨below, onWay, rfl⟩ := List.mem_map.1 inside
    refine List.forall_mem_cons.2 ⟨rfl, ?_⟩
    have few : children.length ≤ 2 := by
      rw [body.length_eq]
      exact short found
    rcases children with _ | ⟨first, _ | ⟨second, _ | _⟩⟩
    · rw [Derivation.bodyWays_nil] at onWay
      obtain rfl := List.mem_singleton.1 onWay
      simp
    · rw [Derivation.bodyWays_singleton] at onWay
      exact ihBody first List.mem_cons_self below onWay
    · have split : Derivation.bodyWays g rule start [first, second] =
          Derivation.bodyWays g rule start [first] ++ second.ways g := by
        rw [← List.singleton_append, Derivation.bodyWays_append_singleton]
        rfl
      rw [split, Derivation.bodyWays_singleton] at onWay
      rcases List.mem_append.1 onWay with inFirst | inSecond
      · exact ihBody first List.mem_cons_self below inFirst
      · exact ihBody second (by simp) below inSecond
    · simp only [List.length_cons] at few
      omega

end ChartParser
