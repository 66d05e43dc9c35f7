import ChartParser.Forest.Arena

/-!
# Forests as text

A forest is printed node by node, children indented below their parent. The families of an
ambiguous node are numbered. A node for the beginning of a production has no line of its own. A
node that is met again on the way down to it is printed as a cycle.
-/

namespace ChartParser

/-- The text of a label: the name of a symbol, or the production with a dot after the symbols
passed; nothing if some id is unknown. -/
def Label.text? (g : Grammar) : Label → Option String
  | .nonterminal id => g.symbolName? (.nonterminal id)
  | .token terminal _ => g.symbolName? (.terminal terminal)
  | .progress lhs production dot => do
    let production ← g.productions[production]?
    let name ← g.symbolName? (.nonterminal lhs)
    let names ← production.symbols.mapM g.symbolName?
    let spaced := names.map (" " ++ ·)
    return name ++ " ->" ++ String.join (spaced.take dot) ++ " ・" ++ String.join (spaced.drop dot)

namespace Forest

/-- A line at an indentation. -/
def indentedLine (indent : Nat) (text : String) : String :=
  String.ofList (List.replicate indent ' ') ++ text ++ "\n"

/-- The lines of a family, given those of a node. -/
def familyText (below : Nat → NodeId → Option String) (indent : Nat) (family : Family) :
    Option String :=
  match family.children with
  | .empty => some (indentedLine indent "(empty)")
  | .one child => below indent child
  | .two left right => do
    let before ← below indent left
    let after ← below indent right
    return before ++ after

/-- The lines of the families of a node, given those of a node: numbered if there are several. -/
def familiesText (below : Nat → NodeId → Option String) (indent : Nat) (families : List Family) :
    Option String :=
  match families with
  | [] => some ""
  | [family] => familyText below indent family
  | families => do
    let options ← (families.zipIdx 1).mapM fun (family, number) => do
      let text ← familyText below (indent + 2) family
      return indentedLine indent ("Option " ++ toString number ++ ":") ++ text
    return String.join options

/-- The lines of a node that is reached through the nodes of `path`, going down at most `depth`
nodes; nothing if some node or name does not exist. -/
def nodeTextWithin (g : Grammar) (arena : Arena) :
    Nat → List NodeId → Nat → NodeId → Option String
  | 0, _, _, _ => none
  | depth + 1, path, indent, id => do
    let node ← arena.nodes[id]?
    if meets path id then return indentedLine indent "(cycle)"
    let below := nodeTextWithin g arena depth (id :: path)
    if node.isProgress then familiesText below indent node.families
    else
      let label ← node.label.text? g
      let line := indentedLine indent
        (label ++ " " ++ toString node.span.start ++ ".." ++ toString node.span.stop)
      let text ← familiesText below (indent + 2) node.families
      return line ++ text

/-- The text of the forest, if all nodes and names that are looked at exist. No way down meets more
nodes than there are before it is cut. -/
def render? (forest : Forest) : Option String :=
  nodeTextWithin forest.grammar forest.arena (forest.arena.size + 1) [] 0 forest.root

end Forest

end ChartParser
