import CircuitDiagram.Graph

/-!
Graphs as DOT text. A node with a kind is labelled by a table of two rows, its id over its kind;
a node without one goes by its id alone. Names stand in quotes, and texts inside a table are
escaped as in HTML.
-/

namespace CircuitDiagram.Dot

structure Style where
  edgeLabels : Bool
  deriving DecidableEq, Repr

def quoteCharacter (character : Char) : List Char :=
  if character = '\\' then ['\\', '\\']
  else if character = '"' then ['\\', '"']
  else if character = '\n' then ['\\', 'n']
  else [character]

def quote (name : String) : String :=
  "\"" ++ String.ofList (name.toList.flatMap quoteCharacter) ++ "\""

def substitute (character : Char) (replacement : String) (text : List Char) : List Char :=
  text.flatMap fun other => if other = character then replacement.toList else [other]

/-- Escapes one character after the other; the ampersand comes first, because the escapes of
the others hold it. -/
def escapeHtml (text : String) : String :=
  String.ofList <|
    substitute '"' "&quot;" <| substitute '>' "&gt;" <| substitute '<' "&lt;" <|
      substitute '&' "&amp;" text.toList

def table (id label : String) : String :=
  "<<TABLE><TR><TD>" ++ escapeHtml id ++ "</TD></TR><TR><TD><B>" ++ escapeHtml label ++
    "</B></TD></TR></TABLE>>"

def nodeStatement (node : Node) : String :=
  match node.kind with
  | some kind => quote node.id ++ " [label=" ++ table node.id kind.label ++ "]"
  | none => quote node.id

def wireStatement (style : Style) (wire : Wire) : String :=
  quote wire.source ++ " -> " ++ quote wire.sink ++
    if style.edgeLabels then " [label=" ++ quote wire.pin ++ "]" else ""

def line (statement : String) : String :=
  "  " ++ statement ++ ";\n"

def write (style : Style) (name : String) (nodes : List Node) (wires : List Wire) : String :=
  "digraph " ++ quote name ++ " \x7b\n" ++
    String.join (nodes.map fun node => line (nodeStatement node)) ++
    String.join (wires.map fun wire => line (wireStatement style wire)) ++
    "\x7d\n"

end Dot

def Graph.toDot (graph : Graph) (style : Dot.Style) : String :=
  Dot.write style graph.name graph.nodes graph.wires

end CircuitDiagram
