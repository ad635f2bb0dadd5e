import CircuitDiagram.Proofs.Graph.OfCircuit
import CircuitDiagram.Run

/-!
What is told of nodes that wires mention and nothing declares. A name is told just before the wire
that mentions it first is added, when the graph does not hold it yet, so what has been told is at
any time what stands in the graph without a kind.
-/

namespace CircuitDiagram

open CircuitDiagram.Graph (Grown ends mem_newNames newNames newNames_concat)

def Event.undeclared? : Event → Option (String × String)
  | .undeclaredNode circuit node => some (circuit, node)
  | _ => none

def Graph.untyped (graph : Graph) : List String :=
  (graph.nodes.filter fun node => node.kind.isNone).map Node.id

section Telling

variable {declared : List Node} {mentions : List String} {graph : Graph} {draft : Draft}

theorem missingEnds_eq (graph : Graph) (wire : Wire) :
    missingEnds graph wire =
      [wire.source, wire.sink].eraseDups.filter fun id => !graph.contains id := by
  by_cases loop : wire.sink = wire.source <;> cases source : graph.contains wire.source <;>
    cases sink : graph.contains wire.sink <;>
    simp_all [missingEnds, List.eraseDups_cons]

theorem newNames_ensure (grown : Grown declared mentions graph) (id : String) :
    newNames (declared.map Node.id) (mentions ++ [id]) =
      newNames (declared.map Node.id) mentions ++ if graph.contains id then [] else [id] := by
  rw [newNames_concat]
  simp only [grown.contains_iff]
  split <;> simp

theorem contains_ensure (grown : Grown declared mentions graph) (id other : String) :
    (graph.ensure id).1.contains other = (other == id || graph.contains other) := by
  rw [Bool.eq_iff_iff, Bool.or_eq_true, beq_iff_eq, grown.contains_iff,
    (grown.ensure id).contains_iff, List.mem_append, List.mem_singleton]
  constructor
  · rintro (declared | mentioned | same)
    · exact .inr (.inl declared)
    · exact .inr (.inr mentioned)
    · exact .inl same
  · rintro (same | declared | mentioned)
    · exact .inr (.inr same)
    · exact .inl declared
    · exact .inr (.inl mentioned)

theorem newNames_connect (grown : Grown declared mentions graph) (wire : Wire) :
    newNames (declared.map Node.id) (mentions ++ [wire.source, wire.sink]) =
      newNames (declared.map Node.id) mentions ++ missingEnds graph wire := by
  have parts : mentions ++ [wire.source, wire.sink] =
      mentions ++ [wire.source] ++ [wire.sink] := by simp
  -- The sink is looked for in the graph that has the source already.
  rw [parts, newNames_ensure (grown.ensure wire.source), newNames_ensure grown,
    contains_ensure grown, missingEnds, List.append_assoc]
  congr 2
  by_cases loop : wire.sink = wire.source <;> by_cases known : graph.contains wire.sink <;>
    simp [loop, known]

/-- A draft that has told the names that were mentioned and not declared, by first mention. -/
structure Told (declared : List Node) (mentions : List String) (draft : Draft) : Prop where
  grown : Grown declared mentions draft.graph
  undeclared : draft.undeclared = newNames (declared.map Node.id) mentions

theorem Told.connect (told : Told declared mentions draft) (wire : Wire) :
    Told declared (mentions ++ [wire.source, wire.sink]) (draft.connect wire) where
  grown := told.grown.connect wire
  undeclared := by
    rw [Draft.connect, told.undeclared, newNames_connect told.grown]

theorem Told.connectAll (told : Told declared mentions draft) (wires : List Wire) :
    Told declared (mentions ++ ends wires) (connectAll draft wires) := by
  induction wires generalizing mentions draft with
  | nil => simpa [ends, CircuitDiagram.connectAll] using told
  | cons wire wires ih =>
      have rest := ih (told.connect wire)
      rwa [List.append_assoc] at rest

end Telling

namespace Circuit

open CircuitDiagram.Graph

variable (name : String) (circuit : Circuit)

def draftOf (wires : List Wire) : Draft :=
  connectAll ⟨declareAll (.empty name) circuit.nodes.entries, []⟩ wires

/-- The ends of a wire that no entry declares and no wire before it mentions, the source first. -/
def newEnds (before : List Wire) (wire : Wire) : List String :=
  [wire.source, wire.sink].eraseDups.filter fun id =>
    id ∉ circuit.nodes.names ∧ id ∉ ends before

theorem told_draftOf (wires : List Wire) :
    Told (declaredNodes circuit.nodes.entries) (ends wires) (circuit.draftOf name wires) := by
  obtain ⟨grown, -⟩ := grown_declareAll name circuit.nodes.entries circuit.nodes.distinct
  have start : Told (declaredNodes circuit.nodes.entries) []
      ⟨declareAll (.empty name) circuit.nodes.entries, []⟩ := ⟨grown, rfl⟩
  exact start.connectAll wires

theorem undeclared_draftOf (wires : List Wire) :
    (circuit.draftOf name wires).undeclared = newNames circuit.nodes.names (ends wires) := by
  rw [(told_draftOf name circuit wires).undeclared, ids_declaredNodes]
  rfl

theorem undeclared_eq : circuit.undeclared name = circuit.onlyMentioned :=
  undeclared_draftOf name circuit circuit.wires

theorem missingEnds_draftOf (before : List Wire) (wire : Wire) :
    missingEnds (circuit.draftOf name before).graph wire = circuit.newEnds before wire := by
  rw [missingEnds_eq, newEnds]
  apply List.filter_congr
  intro id _
  have known : (circuit.draftOf name before).graph.contains id = true ↔ _ :=
    (told_draftOf name circuit before).grown.contains_iff
  rw [Bool.eq_iff_iff, Bool.not_eq_true', ← Bool.not_eq_true, known, ids_declaredNodes, not_or,
    decide_eq_true_eq]
  rfl

theorem undeclared_draftOf_concat (before : List Wire) (wire : Wire) :
    (circuit.draftOf name (before ++ [wire])).undeclared =
      (circuit.draftOf name before).undeclared ++ circuit.newEnds before wire := by
  rw [← missingEnds_draftOf name, draftOf, connectAll, List.foldl_concat]
  rfl

theorem untyped_graph : (circuit.graph name).untyped = circuit.onlyMentioned := by
  have declared : (declaredNodes circuit.nodes.entries).filter (fun node => node.kind.isNone) =
      [] := by
    rw [List.filter_eq_nil_iff]
    intro node inside
    obtain ⟨entry, -, rfl⟩ := List.mem_map.mp inside
    simp
  rw [untyped, nodes_graph, List.filter_append, declared, List.nil_append]
  simp [List.filter_map, Function.comp_def]

/-- Such a node has the wire that mentions it, so it is not pruned. -/
theorem untyped_pruned : (circuit.pruned name).1.untyped = (circuit.graph name).untyped := by
  rw [untyped, untyped, nodes_pruned, List.filter_filter]
  congr 1
  apply List.filter_congr
  intro node inside
  by_cases gone : node.id ∈ (circuit.pruned name).2
  · have typed := isSome_kind_of_pruned name circuit inside gone
    simp [Option.isSome_iff_ne_none.mp typed]
  · simp [gone]

theorem undeclared_warningsOf (base stem : String) :
    (warningsOf name base stem circuit).filterMap Event.undeclared? =
      (circuit.undeclared name).map fun node => (name, node) := by
  have others : (if stem = base then [] else [Event.stemRenamed name stem]).filterMap
      Event.undeclared? = [] := by
    split <;> rfl
  have told : Event.undeclared? ∘ Event.undeclaredNode name =
      some ∘ fun node => (name, node) := rfl
  rw [warningsOf, List.filterMap_append, others, List.append_nil, List.filterMap_map, told,
    List.filterMap_eq_map]

/-- The undeclared nodes that are told of are the nodes without a kind, in the order of the nodes.
Each has some wire that mentions it and no entry that declares it, is told of once, with the first
wire that mentions it, and is still there when the graph is pruned. -/
theorem undeclared_told :
    circuit.undeclared name = (circuit.graph name).untyped ∧
      (∀ base stem, (warningsOf name base stem circuit).filterMap Event.undeclared? =
        (circuit.graph name).untyped.map fun node => (name, node)) ∧
      (circuit.undeclared name).Nodup ∧
      (∀ id, id ∈ circuit.undeclared name ↔ id ∈ ends circuit.wires ∧ id ∉ circuit.nodes.names) ∧
      (∀ before wire, (circuit.draftOf name (before ++ [wire])).undeclared =
        (circuit.draftOf name before).undeclared ++ circuit.newEnds before wire) ∧
      (circuit.pruned name).1.untyped = circuit.undeclared name := by
  have told : circuit.undeclared name = (circuit.graph name).untyped := by
    rw [undeclared_eq, untyped_graph]
  refine ⟨told, fun base stem => ?_, ?_, fun id => ?_, undeclared_draftOf_concat name circuit, ?_⟩
  · rw [undeclared_warningsOf, told]
  · rw [undeclared_eq, onlyMentioned, newNames]
    exact nodup_eraseDups _
  · rw [undeclared_eq, onlyMentioned, mem_newNames]
  · rw [untyped_pruned, told]

end Circuit

end CircuitDiagram
