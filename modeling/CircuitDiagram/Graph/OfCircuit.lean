import CircuitDiagram.Graph

/-!
The graph of a circuit: its declared nodes, then its wires. A wire may mention nodes that are
not declared; they are added without a kind, and told once each.
-/

namespace CircuitDiagram

structure Draft where
  graph : Graph
  undeclared : List String

/-- The ends of a wire that the graph does not hold, each once. -/
def missingEnds (graph : Graph) (wire : Wire) : List String :=
  (if graph.contains wire.source then [] else [wire.source]) ++
    -- The source is there by the time the sink is asked for.
    if wire.sink != wire.source && !graph.contains wire.sink then [wire.sink] else []

def Draft.connect (draft : Draft) (wire : Wire) : Draft :=
  ⟨draft.graph.connect wire, draft.undeclared ++ missingEnds draft.graph wire⟩

def declareAll (graph : Graph) (entries : List (String × Kind)) : Graph :=
  entries.foldl (fun sofar entry => (sofar.declare entry.1 entry.2).1) graph

def connectAll (draft : Draft) (wires : List Wire) : Draft :=
  wires.foldl Draft.connect draft

namespace Circuit

def draft (name : String) (circuit : Circuit) : Draft :=
  connectAll ⟨declareAll (.empty name) circuit.nodes.entries, []⟩ circuit.wires

def graph (name : String) (circuit : Circuit) : Graph :=
  (circuit.draft name).graph

/-- The names that wires mention and no entry declares, by first mention. -/
def undeclared (name : String) (circuit : Circuit) : List String :=
  (circuit.draft name).undeclared

def pruned (name : String) (circuit : Circuit) : Graph × List String :=
  (circuit.graph name).prune

end Circuit

def Document.graphs (document : Document) : List Graph :=
  document.circuits.entries.map fun entry => (entry.2.pruned entry.1).1

end CircuitDiagram
