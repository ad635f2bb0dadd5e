import CircuitDiagram.Document
import CircuitDiagram.Json.Value

/-!
Documents as JSON values, in the one shape that is written: circuits, node entries and wires are
objects, and a boundary kind is its name alone.
-/

namespace CircuitDiagram

open Json (Field Value)

def Kind.toValue : Kind → Value
  | .boundary side => .text side.name
  | .gate name => .object [("Internal", .text name)]

def nodeValue (kind : Kind) : Value :=
  .object [(Field.type.key, kind.toValue)]

def Wire.toValue (wire : Wire) : Value :=
  .object [
    (Field.source.key, .text wire.source),
    (Field.sink.key, .list [.text wire.sink, .text wire.pin])]

def groupValue (wires : List Wire) : Value :=
  .list (wires.map Wire.toValue)

def Table.toValue {α : Type} (value : α → Value) (table : Table α) : Value :=
  .object (table.entries.map fun entry => (entry.1, value entry.2))

def Circuit.toValue (circuit : Circuit) : Value :=
  .object [
    (Field.nodes.key, circuit.nodes.toValue nodeValue),
    (Field.edges.key, circuit.groups.toValue groupValue)]

def Document.toValue (document : Document) : Value :=
  document.circuits.toValue Circuit.toValue

end CircuitDiagram
