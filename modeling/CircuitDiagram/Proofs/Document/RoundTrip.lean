import CircuitDiagram.Document.Writing
import CircuitDiagram.Proofs.Document.InputLanguage
import CircuitDiagram.Proofs.Json.Writing

/-!
Documents written and read again. A part of a document has a value, the value has a tree, and the
tree has the shape of that very part; so reading gives back what was written, in the same order.
What is written has the one documented shape, whatever the text looked like that the document was
first read from.
-/

namespace CircuitDiagram

open Json

variable {α : Type}

section Shapes

theorem named_memberTreesOf (members : List (String × Value)) :
    named? (memberTreesOf members) = some (members.map fun member => (member.1, member.2.tree)) := by
  induction members with
  | nil => rfl
  | cons member rest ih =>
      rw [memberTreesOf, named_cons, text_marksOf, ih]
      rfl

theorem mapM_map_of_each {β γ : Type} {read : γ → Option β} {write : β → γ}
    (each : ∀ part, read (write part) = some part) (parts : List β) :
    (parts.map write).mapM read = some parts := by
  induction parts with
  | nil => rfl
  | cons part rest ih => simp [List.mapM_cons, each, ih]

theorem shapeKind_tree (kind : Kind) : shapeKind kind.toValue.tree = some kind := by
  cases kind with
  | boundary side => cases side <;> simp [Kind.toValue, Value.tree, shapeKind, boundary?, Side.name]
  | gate name => simp [Kind.toValue, Value.tree, memberTreesOf, shapeKind]

theorem shapeNode_tree (kind : Kind) : shapeNode (nodeValue kind).tree = some kind := by
  rw [nodeValue, Value.tree, shapeNode, named_memberTreesOf]
  simp [sole?, Field.key, shapeKind_tree]

theorem shapeWire_tree (wire : Wire) : shapeWire wire.toValue.tree = some wire := by
  rw [Wire.toValue, Value.tree, shapeWire, shapeRecord, named_memberTreesOf]
  simp [sole?, Field.key, Value.tree, treesOf, shapeText, shapeSink, shapePair]

theorem shapeGroup_tree (wires : List Wire) : shapeGroup (groupValue wires).tree = some wires := by
  rw [groupValue, Value.tree, treesOf_eq_map, List.map_map, shapeGroup, shapeList]
  exact mapM_map_of_each shapeWire_tree wires

theorem shapeTable_tree {shape : Tree → Option α} {value : α → Value}
    (each : ∀ part, shape (value part).tree = some part) (table : Table α) :
    shapeTable shape (table.toValue value).tree = some table := by
  have members : (table.entries.map fun entry => (entry.1, (value entry.2).tree)).mapM
      (fun field => (shape field.2).map (field.1, ·)) = some table.entries :=
    mapM_map_of_each (by simp [each]) table.entries
  rw [Table.toValue, Value.tree, shapeTable, named_memberTreesOf, List.map_map]
  change ((table.entries.map fun entry => (entry.1, (value entry.2).tree)).mapM
    fun field => (shape field.2).map (field.1, ·)).bind (fun entries => some (.ofEntries entries)) =
      some table
  rw [members, Option.bind_some, table.ofEntries_entries]

theorem shapeCircuit_tree (circuit : Circuit) :
    shapeCircuit circuit.toValue.tree = some circuit := by
  rw [Circuit.toValue, Value.tree, shapeCircuit, shapeRecord, named_memberTreesOf]
  simp [sole?, Field.key, shapeTable_tree shapeNode_tree, shapeTable_tree shapeGroup_tree]

theorem shapeDocument_tree (document : Document) :
    shapeDocument document.toValue.tree = some document := by
  rw [Document.toValue, shapeDocument, shapeTable_tree shapeCircuit_tree]
  rfl

end Shapes

section Forms

theorem written_kind (kind : Kind) : kind.toValue.Written := by
  cases kind with
  | boundary side => exact written_text side.name
  | gate name =>
      apply written_object
      intro member inside
      obtain rfl := List.mem_singleton.mp inside
      exact written_text name

theorem written_node (kind : Kind) : (nodeValue kind).Written := by
  apply written_object
  intro member inside
  obtain rfl := List.mem_singleton.mp inside
  exact written_kind kind

theorem written_wire (wire : Wire) : wire.toValue.Written := by
  have ends : (Value.list [.text wire.sink, .text wire.pin]).Written := by
    apply written_list
    intro element inside
    rcases List.mem_pair.mp inside with rfl | rfl
    · exact written_text wire.sink
    · exact written_text wire.pin
  apply written_object
  intro member inside
  rcases List.mem_pair.mp inside with rfl | rfl
  · exact written_text wire.source
  · exact ends

theorem written_group (wires : List Wire) : (groupValue wires).Written := by
  apply written_list
  intro element inside
  obtain ⟨wire, _, rfl⟩ := List.mem_map.mp inside
  exact written_wire wire

theorem written_table {value : α → Value} (each : ∀ part, (value part).Written)
    (table : Table α) : (table.toValue value).Written := by
  apply written_object
  intro member inside
  obtain ⟨entry, _, rfl⟩ := List.mem_map.mp inside
  exact each entry.2

theorem written_circuit (circuit : Circuit) : circuit.toValue.Written := by
  apply written_object
  intro member inside
  rcases List.mem_pair.mp inside with rfl | rfl
  · exact written_table written_node circuit.nodes
  · exact written_table written_group circuit.groups

theorem written_document (document : Document) : document.toValue.Written :=
  written_table written_circuit document.circuits

end Forms

section Plain

/-- The documented form of a kind: the name of a boundary alone, or a gate's name under its tag. -/
inductive PlainKind : Tree → Prop where
  | input {marks : List Mark} (named : text? marks = some "Input") : PlainKind (.text marks)
  | output {marks : List Mark} (named : text? marks = some "Output") : PlainKind (.text marks)
  | gate {members : List (List Mark × Tree)} {marks : List Mark} {name : String}
      (fields : named? members = some [("Internal", .text marks)])
      (named : text? marks = some name) : PlainKind (.object members)

/-- An object with one field and no other. -/
inductive PlainNode : Tree → Prop where
  | mk {members : List (List Mark × Tree)} {tree : Tree}
      (fields : named? members = some [("type_", tree)]) (kind : PlainKind tree) :
      PlainNode (.object members)

inductive PlainWire : Tree → Prop where
  | mk {members : List (List Mark × Tree)} {source sink pin : List Mark} {names : List String}
      (fields : named? members =
        some [("source", .text source), ("sink", .list [.text sink, .text pin])])
      (named : [source, sink, pin].mapM text? = some names) : PlainWire (.object members)

inductive PlainGroup : Tree → Prop where
  | mk {trees : List Tree} (wires : ∀ tree ∈ trees, PlainWire tree) : PlainGroup (.list trees)

/-- An object in which no name comes twice. -/
inductive PlainTable (plain : Tree → Prop) : Tree → Prop where
  | mk {members : List (List Mark × Tree)} {fields : List (String × Tree)}
      (named : named? members = some fields) (distinct : (fields.map Prod.fst).Nodup)
      (each : ∀ field ∈ fields, plain field.2) : PlainTable plain (.object members)

inductive PlainCircuit : Tree → Prop where
  | mk {members : List (List Mark × Tree)} {nodes groups : Tree}
      (fields : named? members = some [("nodes", nodes), ("edges", groups)])
      (plainNodes : PlainTable PlainNode nodes) (plainGroups : PlainTable PlainGroup groups) :
      PlainCircuit (.object members)

abbrev PlainDocument : Tree → Prop :=
  PlainTable PlainCircuit

theorem plain_kind (kind : Kind) : PlainKind kind.toValue.tree := by
  cases kind with
  | boundary side =>
      cases side with
      | input => exact .input (text_marksOf _)
      | output => exact .output (text_marksOf _)
  | gate name => exact .gate (named_memberTreesOf _) (text_marksOf name)

theorem plain_node (kind : Kind) : PlainNode (nodeValue kind).tree :=
  .mk (named_memberTreesOf _) (plain_kind kind)

theorem plain_wire (wire : Wire) : PlainWire wire.toValue.tree := by
  have names : [marksOf wire.source, marksOf wire.sink, marksOf wire.pin].mapM text? =
      some [wire.source, wire.sink, wire.pin] :=
    mapM_map_of_each text_marksOf [wire.source, wire.sink, wire.pin]
  exact .mk (named_memberTreesOf _) names

theorem plain_group (wires : List Wire) : PlainGroup (groupValue wires).tree := by
  rw [groupValue, Value.tree, treesOf_eq_map, List.map_map]
  constructor
  intro tree inside
  obtain ⟨wire, _, rfl⟩ := List.mem_map.mp inside
  exact plain_wire wire

theorem plain_table {value : α → Value} {plain : Tree → Prop}
    (each : ∀ part, plain (value part).tree) (table : Table α) :
    PlainTable plain (table.toValue value).tree := by
  refine .mk (named_memberTreesOf _) ?_ ?_
  · rw [List.map_map, List.map_map]
    exact table.distinct
  · intro field inside
    rw [List.map_map] at inside
    obtain ⟨entry, _, rfl⟩ := List.mem_map.mp inside
    exact each entry.2

theorem plain_circuit (circuit : Circuit) : PlainCircuit circuit.toValue.tree :=
  .mk (named_memberTreesOf _) (plain_table plain_node circuit.nodes)
    (plain_table plain_group circuit.groups)

theorem plain_document (document : Document) : PlainDocument document.toValue.tree :=
  plain_table plain_circuit document.circuits

end Plain

section RoundTrip

/-- Either written form of the value is read as this part of a document. -/
def ReadsBack (reader : Reader α) (value : Value) (part : α) : Prop :=
  ∀ text ∈ [value.compact, value.pretty],
    decode reader .whole (Symbol.ofString text) = .ok part

theorem readsBack_of_written {reader : Reader α} {shape : Tree → Option α}
    (exact : Exact reader (Shaped shape)) {value : Value} {part : α} (written : value.Written)
    (means : shape value.tree = some part) : ReadsBack reader value part := by
  intro text either
  rcases List.mem_pair.mp either with rfl | rfl
  · exact (decode_eq_ok_iff exact .whole _ part).mpr ⟨_, written.isText_compact, means⟩
  · exact (decode_eq_ok_iff exact .whole _ part).mpr ⟨_, written.isText_pretty, means⟩

theorem readsBack_document (document : Document) :
    ReadsBack readDocument document.toValue document :=
  readsBack_of_written readDocument_exact (written_document document)
    (shapeDocument_tree document)

namespace Document

/-- The text of the document that a text is read as. -/
def canonical (text : String) : Except Complaint String :=
  (parse text).map fun document => document.toValue.compact

theorem parse_compact (document : Document) :
    parse document.toValue.compact = .ok document :=
  readsBack_document document _ List.mem_cons_self

theorem parse_canonical (text : String) : (canonical text).bind parse = parse text := by
  unfold canonical
  cases parse text with
  | error complaint => rfl
  | ok document => exact parse_compact document

theorem canonical_canonical (text : String) :
    (canonical text).bind canonical = canonical text := by
  unfold canonical
  cases parse text with
  | error complaint => rfl
  | ok document =>
      change (parse document.toValue.compact).map _ = _
      rw [parse_compact]

/-- Documents and their parts are read back from either written form, order included. So the text
of what was read is read as the same document, is its own canonical text, and has the documented
form, in which nothing comes twice. -/
theorem read_written :
    (∀ document : Document, ∀ text ∈ [document.toValue.compact, document.toValue.pretty],
        parse text = .ok document) ∧
      (∀ circuit : Circuit, ReadsBack readCircuit circuit.toValue circuit) ∧
      (∀ kind : Kind, ReadsBack readNode (nodeValue kind) kind) ∧
      (∀ wire : Wire, ReadsBack readWire wire.toValue wire) ∧
      (∀ kind : Kind, ReadsBack readKind kind.toValue kind) ∧
      (∀ text : String, (canonical text).bind parse = parse text ∧
        (canonical text).bind canonical = canonical text) ∧
      ∀ document : Document, ∃ tree, IsText document.toValue.compact tree ∧
        IsText document.toValue.pretty tree ∧ PlainDocument tree := by
  refine ⟨readsBack_document, ?_, ?_, ?_, ?_, ?_, ?_⟩
  · exact fun circuit =>
      readsBack_of_written readCircuit_exact (written_circuit circuit) (shapeCircuit_tree circuit)
  · exact fun kind =>
      readsBack_of_written readNode_exact (written_node kind) (shapeNode_tree kind)
  · exact fun wire =>
      readsBack_of_written readWire_exact (written_wire wire) (shapeWire_tree wire)
  · exact fun kind =>
      readsBack_of_written readKind_exact (written_kind kind) (shapeKind_tree kind)
  · exact fun text => ⟨parse_canonical text, canonical_canonical text⟩
  · intro document
    have written := written_document document
    exact ⟨_, written.isText_compact, written.isText_pretty, plain_document document⟩

end Document

end RoundTrip

end CircuitDiagram
