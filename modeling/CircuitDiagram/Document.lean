import CircuitDiagram.Table

/-!
Documents: named circuits, each with typed nodes and with wires in named groups. The group a
wire is in says nothing about the circuit.
-/

namespace CircuitDiagram

/-- The side of the enclosing gate that a boundary node is on. -/
inductive Side where
  | input
  | output
  deriving DecidableEq, Repr

def Side.name : Side → String
  | .input => "Input"
  | .output => "Output"

inductive Kind where
  | boundary (side : Side)
  | gate (name : String)
  deriving DecidableEq, Repr

namespace Kind

def label : Kind → String
  | boundary side => side.name
  | gate name => name

def side? : Kind → Option Side
  | boundary side => some side
  | gate _ => none

def isBoundary (kind : Kind) : Bool :=
  kind.side?.isSome

end Kind

structure Wire where
  source : String
  sink : String
  pin : String
  deriving DecidableEq, Repr

structure Circuit where
  nodes : Table Kind
  groups : Table (List Wire)

namespace Circuit

def wires (circuit : Circuit) : List Wire :=
  circuit.groups.values.flatten

/-- Equality of circuits: the order of nodes and of groups does not count, that of the wires in
a group does. -/
def agrees (left right : Circuit) : Bool :=
  left.nodes.agrees (fun kind other => decide (kind = other)) right.nodes &&
    left.groups.agrees (fun wires others => decide (wires = others)) right.groups

end Circuit

structure Document where
  circuits : Table Circuit

namespace Document

def size (document : Document) : Nat :=
  document.circuits.size

def isEmpty (document : Document) : Bool :=
  document.circuits.isEmpty

/-- Equality of documents: the order of circuits does not count. -/
def agrees (left right : Document) : Bool :=
  left.circuits.agrees Circuit.agrees right.circuits

end Document

end CircuitDiagram
