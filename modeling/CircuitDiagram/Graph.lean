import CircuitDiagram.Document

/-!
Directed multigraphs of circuits. A node lives in a numbered slot, and links refer to slots.
Nodes are listed by slot. A removed node leaves its slot vacant, and a new node takes the slot
vacated last before it asks for one more. An index tells the slots of the nodes by their names.

Two things are assumed of the slots, which are the work of a store that is not modelled: that the
one vacated last is taken first, and that there is no end of them.
-/

namespace CircuitDiagram

structure Node where
  id : String
  kind : Option Kind
  deriving DecidableEq, Repr

structure Link where
  source : Nat
  sink : Nat
  pin : String
  deriving DecidableEq, Repr

def Link.touches (link : Link) (slot : Nat) : Bool :=
  link.source == slot || link.sink == slot

structure Graph where
  name : String
  slots : List (Option Node)
  /-- The vacant slots, vacated last first. -/
  vacant : List Nat
  links : List Link
  index : Table Nat

namespace Graph

def empty (name : String) : Graph :=
  ⟨name, [], [], [], .empty⟩

variable (graph : Graph)

def slot? (id : String) : Option Nat :=
  graph.index.get? id

def contains (id : String) : Bool :=
  (graph.slot? id).isSome

def nodeAt? (slot : Nat) : Option Node :=
  (graph.slots[slot]?).join

def node? (id : String) : Option Node :=
  (graph.slot? id).bind graph.nodeAt?

def nodes : List Node :=
  graph.slots.filterMap fun slot => slot

def size : Nat :=
  graph.nodes.length

def isEmpty : Bool :=
  graph.nodes.isEmpty

def wire? (link : Link) : Option Wire :=
  match graph.nodeAt? link.source, graph.nodeAt? link.sink with
  | some source, some sink => some ⟨source.id, sink.id, link.pin⟩
  | _, _ => none

def wires : List Wire :=
  graph.links.filterMap graph.wire?

def wireCount : Nat :=
  graph.links.length

/-- How many link ends a slot has; a link from a slot to itself has two. -/
def degreeAt (slot : Nat) : Nat :=
  graph.links.countP (fun link => link.source == slot) +
    graph.links.countP (fun link => link.sink == slot)

def degree? (id : String) : Option Nat :=
  (graph.slot? id).map graph.degreeAt

def place (node : Node) : Graph × Nat :=
  match graph.vacant with
  | slot :: others =>
      ({ graph with slots := graph.slots.set slot (some node), vacant := others }, slot)
  -- There is always room for one more.
  | [] => ({ graph with slots := graph.slots ++ [some node] }, graph.slots.length)

/-- The slot of a node, which is added without a kind if it is not there. -/
def ensure (id : String) : Graph × Nat :=
  match graph.slot? id with
  | some slot => (graph, slot)
  | none =>
      let placed := graph.place ⟨id, none⟩
      ({ placed.1 with index := placed.1.index.set id placed.2 }, placed.2)

def assign (slot : Nat) (kind : Kind) : Graph :=
  { graph with
    slots := graph.slots.modify slot (Option.map fun node => { node with kind := some kind }) }

def declare (id : String) (kind : Kind) : Graph × Nat :=
  let ensured := graph.ensure id
  (ensured.1.assign ensured.2 kind, ensured.2)

/-- Adds a wire; ends that are not there are added without a kind, the source first. -/
def connect (wire : Wire) : Graph :=
  let source := graph.ensure wire.source
  let sink := source.1.ensure wire.sink
  { sink.1 with links := sink.1.links ++ [⟨source.2, sink.2, wire.pin⟩] }

def isolated : List Nat :=
  (List.range graph.slots.length).filter fun slot =>
    (graph.nodeAt? slot).isSome && graph.degreeAt slot == 0

def remove (slot : Nat) (node : Node) : Graph :=
  { graph with
    slots := graph.slots.set slot none
    vacant := slot :: graph.vacant
    links := graph.links.filter fun link => !link.touches slot
    index := graph.index.remove node.id }

def removeAll (graph : Graph) : List Nat → Graph × List String
  | [] => (graph, [])
  | slot :: rest =>
      match graph.nodeAt? slot with
      | none => removeAll graph rest
      | some node =>
          let removed := removeAll (graph.remove slot node) rest
          (removed.1, node.id :: removed.2)

def prune : Graph × List String :=
  graph.removeAll graph.isolated

end Graph

end CircuitDiagram
