import CircuitDiagram.Graph.OfCircuit
import CircuitDiagram.Proofs.Graph.Preservation

/-!
The graph of a circuit, and the pruned one, in closed form: by what the circuit declares and what
its wires mention, with no graph built. While a graph is built no slot is vacant, so nodes stand in
the order in which they came.
-/

namespace CircuitDiagram

namespace Graph

variable {graph : Graph} {declared : List Node} {mentions : List String}

/-- The names at the ends of wires, in the order of the wires, the source of each first. -/
def ends (wires : List Wire) : List String :=
  wires.flatMap fun wire => [wire.source, wire.sink]

theorem mentioned_iff {wires : List Wire} {id : String} :
    mentioned wires id = true ↔ id ∈ ends wires := by
  simp only [mentioned, ends, List.any_eq_true, List.mem_flatMap, Bool.or_eq_true, beq_iff_eq,
    List.mem_cons, List.not_mem_nil, or_false, @eq_comm _ id]

/-- The names mentioned that are new, by first mention. -/
def newNames (known mentions : List String) : List String :=
  (mentions.filter fun id => !known.contains id).eraseDups

theorem mem_newNames {known : List String} {id : String} :
    id ∈ newNames known mentions ↔ id ∈ mentions ∧ id ∉ known := by
  simp [newNames, List.mem_eraseDups]

theorem newNames_concat (known mentions : List String) (id : String) :
    newNames known (mentions ++ [id]) =
      if id ∈ known ∨ id ∈ mentions then newNames known mentions
      else newNames known mentions ++ [id] := by
  rw [newNames, List.filter_append]
  by_cases old : id ∈ known
  · rw [if_pos (.inl old), List.filter_cons_of_neg (by simpa using old), List.filter_nil,
      List.append_nil, newNames]
  · rw [List.filter_cons_of_pos (by simpa using old), List.filter_nil, eraseDups_concat]
    simp [newNames, old]

/-- A graph in which names have been mentioned since these nodes were all. -/
structure Grown (declared : List Node) (mentions : List String) (graph : Graph) : Prop where
  sound : graph.Sound
  full : graph.vacant = []
  nodes : graph.nodes =
    declared ++ (newNames (declared.map Node.id) mentions).map fun id => ⟨id, none⟩

theorem Grown.contains_iff (grown : Grown declared mentions graph) {id : String} :
    graph.contains id = true ↔ id ∈ declared.map Node.id ∨ id ∈ mentions := by
  rw [Graph.contains_iff grown.sound, grown.nodes]
  constructor
  · rintro ⟨node, inside, rfl⟩
    rcases List.mem_append.mp inside with old | new
    · exact .inl (List.mem_map_of_mem old)
    · obtain ⟨id, mentioned, rfl⟩ := List.mem_map.mp new
      exact .inr (mem_newNames.mp mentioned).1
  · intro known
    by_cases old : id ∈ declared.map Node.id
    · obtain ⟨node, inside, same⟩ := List.mem_map.mp old
      exact ⟨node, List.mem_append_left _ inside, same⟩
    · have new : id ∈ newNames (declared.map Node.id) mentions :=
        mem_newNames.mpr ⟨known.resolve_left old, old⟩
      exact ⟨⟨id, none⟩, List.mem_append_right _ (List.mem_map_of_mem new), rfl⟩

-- A name mentioned again is known by then, so only its first mention adds a node.
theorem Grown.ensure (grown : Grown declared mentions graph) (id : String) :
    Grown declared (mentions ++ [id]) (graph.ensure id).1 where
  sound := sound_ensure grown.sound id
  full := vacant_ensure grown.full id
  nodes := by
    rw [nodes_ensure grown.full, newNames_concat, grown.nodes]
    simp only [grown.contains_iff]
    split <;> simp

theorem Grown.connect (grown : Grown declared mentions graph) (wire : Wire) :
    Grown declared (mentions ++ [wire.source, wire.sink]) (graph.connect wire) where
  sound := sound_connect grown.sound wire
  full := vacant_connect grown.full wire
  nodes := by
    have both := ((grown.ensure wire.source).ensure wire.sink).nodes
    rw [nodes_connect, both, List.append_assoc]
    rfl

theorem Grown.connectAll (grown : Grown declared mentions graph) (wires : List Wire) :
    Grown declared (mentions ++ ends wires) (wires.foldl Graph.connect graph) := by
  induction wires generalizing mentions graph with
  | nil => simpa [ends] using grown
  | cons wire wires ih =>
      have rest := ih (grown.connect wire)
      rwa [List.append_assoc] at rest

theorem wires_connectAll (sound : graph.Sound) (wires : List Wire) :
    (wires.foldl Graph.connect graph).wires = graph.wires ++ wires := by
  induction wires generalizing graph with
  | nil => simp
  | cons wire wires ih =>
      rw [List.foldl_cons, ih (sound_connect sound wire), wires_connect sound]
      simp

theorem graph_connectAll (draft : Draft) (wires : List Wire) :
    (CircuitDiagram.connectAll draft wires).graph = wires.foldl Graph.connect draft.graph := by
  induction wires generalizing draft with
  | nil => rfl
  | cons wire wires ih => exact ih (draft.connect wire)

/-- Entries as the nodes that they declare. -/
def declaredNodes (entries : List (String × Kind)) : List Node :=
  entries.map fun entry => ⟨entry.1, some entry.2⟩

theorem ids_declaredNodes (entries : List (String × Kind)) :
    (declaredNodes entries).map Node.id = entries.map Prod.fst := by
  simp [declaredNodes]

/-- Declared one after the other, under names that differ, the nodes stand in order. -/
theorem grown_declareAll (name : String) (entries : List (String × Kind))
    (distinct : (entries.map Prod.fst).Nodup) :
    Grown (declaredNodes entries) [] (declareAll (.empty name) entries) ∧
      (declareAll (.empty name) entries).wires = [] := by
  induction entries using List.reverseRecOn with
  | nil => exact ⟨⟨sound_empty name, rfl, rfl⟩, rfl⟩
  | append_singleton entries entry ih =>
      obtain ⟨id, kind⟩ := entry
      rw [List.map_append, List.nodup_append] at distinct
      obtain ⟨before, _, apart⟩ := distinct
      obtain ⟨grown, wires⟩ := ih before
      have absent : (declareAll (.empty name) entries).contains id = false := by
        rw [← Bool.not_eq_true, grown.contains_iff, ids_declaredNodes]
        rintro (old | mentioned)
        · exact apart id old id (by simp) rfl
        · cases mentioned
      rw [declareAll, List.foldl_concat, ← declareAll]
      refine ⟨⟨sound_declare grown.sound id kind, vacant_declare grown.full id kind, ?_⟩, ?_⟩
      · rw [nodes_declare grown.sound grown.full absent, grown.nodes]
        simp [declaredNodes, newNames]
      · rw [wires_declare grown.sound, wires]

end Graph

namespace Circuit

open CircuitDiagram.Graph

variable (name : String) (circuit : Circuit)

theorem graph_eq : circuit.graph name =
    circuit.wires.foldl Graph.connect (declareAll (.empty name) circuit.nodes.entries) := by
  rw [graph, draft, graph_connectAll]

theorem grown_graph :
    Grown (declaredNodes circuit.nodes.entries) (ends circuit.wires) (circuit.graph name) := by
  obtain ⟨grown, -⟩ := grown_declareAll name circuit.nodes.entries circuit.nodes.distinct
  rw [graph_eq]
  exact grown.connectAll circuit.wires

theorem wires_graph : (circuit.graph name).wires = circuit.wires := by
  obtain ⟨grown, none⟩ := grown_declareAll name circuit.nodes.entries circuit.nodes.distinct
  rw [graph_eq, wires_connectAll grown.sound, none, List.nil_append]

/-- The names that wires mention and no entry declares, by first mention. -/
def onlyMentioned : List String :=
  newNames circuit.nodes.names (ends circuit.wires)

theorem nodes_graph :
    (circuit.graph name).nodes = declaredNodes circuit.nodes.entries ++
      circuit.onlyMentioned.map fun id => ⟨id, none⟩ := by
  rw [(grown_graph name circuit).nodes, ids_declaredNodes]
  rfl

theorem wires_pruned : (circuit.pruned name).1.wires = circuit.wires := by
  rw [pruned, (cleared_prune (grown_graph name circuit).sound).wires, wires_graph]

theorem names_pruned :
    (circuit.pruned name).2 =
      circuit.nodes.names.filter fun id => !mentioned circuit.wires id := by
  -- A node that is only mentioned has the wire that mentions it.
  have others : (circuit.onlyMentioned.map fun id => (⟨id, none⟩ : Node)).filter
      (fun node => !mentioned circuit.wires node.id) = [] := by
    rw [List.filter_eq_nil_iff]
    intro node inside
    obtain ⟨id, only, rfl⟩ := List.mem_map.mp inside
    simp [mentioned_iff.mpr (mem_newNames.mp only).1]
  rw [pruned, names_prune (grown_graph name circuit).sound, wires_graph, nodes_graph,
    List.filter_append, others, List.append_nil, declaredNodes, List.filter_map, List.map_map,
    Table.names, List.filter_map]
  rfl

theorem mem_pruned_iff {node : Node} (inside : node ∈ (circuit.graph name).nodes) :
    node.id ∈ (circuit.pruned name).2 ↔ mentioned circuit.wires node.id = false := by
  rw [pruned, names_prune (grown_graph name circuit).sound, wires_graph, List.mem_map]
  constructor
  · rintro ⟨other, selected, same⟩
    simpa [same] using (List.mem_filter.mp selected).2
  · intro apart
    exact ⟨node, List.mem_filter.mpr ⟨inside, by simp [apart]⟩, rfl⟩

theorem nodes_pruned :
    (circuit.pruned name).1.nodes =
      (circuit.graph name).nodes.filter fun node => node.id ∉ (circuit.pruned name).2 := by
  have sound := (grown_graph name circuit).sound
  have selected : (circuit.pruned name).1.nodes =
      (circuit.graph name).nodes.filter fun node => mentioned circuit.wires node.id := by
    rw [pruned, nodes_prune sound, wires_graph]
  rw [selected]
  apply List.filter_congr
  intro node inside
  simp [mem_pruned_iff name circuit inside]

theorem isSome_kind_of_pruned {node : Node} (inside : node ∈ (circuit.graph name).nodes)
    (gone : node.id ∈ (circuit.pruned name).2) : node.kind.isSome = true := by
  have apart := (mem_pruned_iff name circuit inside).mp gone
  rw [nodes_graph] at inside
  rcases List.mem_append.mp inside with declared | added
  · obtain ⟨entry, _, rfl⟩ := List.mem_map.mp declared
    rfl
  · obtain ⟨id, only, rfl⟩ := List.mem_map.mp added
    rw [mentioned_iff.mpr (mem_newNames.mp only).1] at apart
    contradiction

theorem degree_pruned {node : Node} (inside : node ∈ (circuit.pruned name).1.nodes) :
    ∃ degree, (circuit.pruned name).1.degree? node.id = some degree ∧ 1 ≤ degree := by
  have sound : (circuit.pruned name).1.Sound :=
    (cleared_prune (grown_graph name circuit).sound).sound
  have present := (Graph.contains_iff sound).mpr ⟨node, inside, rfl⟩
  rw [nodes_pruned, List.mem_filter] at inside
  obtain ⟨inside, kept⟩ := inside
  simp only [mem_pruned_iff name circuit inside, Bool.not_eq_false, decide_eq_true_eq] at kept
  refine ⟨endCount circuit.wires node.id, ?_, ?_⟩
  · rw [degree_eq sound, present, wires_pruned]
    rfl
  · rw [Nat.one_le_iff_ne_zero, ne_eq, endCount_eq_zero_iff]
    simp [kept]

theorem size_pruned :
    (circuit.pruned name).1.size + (circuit.pruned name).2.length =
      (circuit.nodes.names ++ ends circuit.wires).eraseDups.length := by
  have sound := (grown_graph name circuit).sound
  have parts : (circuit.pruned name).1.size + (circuit.pruned name).2.length =
      (circuit.graph name).nodes.length := by
    rw [size, pruned, nodes_prune sound, names_prune sound, List.length_map]
    exact (List.length_eq_length_filter_add _).symm
  rw [parts, nodes_graph, List.eraseDups_append, eraseDups_of_nodup circuit.nodes.nodup_names]
  simp [declaredNodes, onlyMentioned, newNames, List.removeAll, Table.names]

/-- The graph of a circuit has the declared nodes, then the nodes only mentioned, and all wires.
Pruning takes away just the declared nodes that no wire mentions. -/
theorem closed_form :
    (circuit.graph name).nodes = declaredNodes circuit.nodes.entries ++
        circuit.onlyMentioned.map (fun id => ⟨id, none⟩) ∧
      (circuit.graph name).wires = circuit.wires ∧
      (circuit.pruned name).2 =
        circuit.nodes.names.filter (fun id => !mentioned circuit.wires id) ∧
      (circuit.pruned name).1.nodes =
        (circuit.graph name).nodes.filter (fun node => node.id ∉ (circuit.pruned name).2) ∧
      (circuit.pruned name).1.wires = circuit.wires ∧
      (∀ node ∈ (circuit.graph name).nodes, node.id ∈ (circuit.pruned name).2 →
        node.kind.isSome = true) ∧
      (∀ node ∈ (circuit.pruned name).1.nodes,
        ∃ degree, (circuit.pruned name).1.degree? node.id = some degree ∧ 1 ≤ degree) ∧
      (circuit.pruned name).1.size + (circuit.pruned name).2.length =
        (circuit.nodes.names ++ ends circuit.wires).eraseDups.length :=
  ⟨nodes_graph name circuit, wires_graph name circuit, names_pruned name circuit,
    nodes_pruned name circuit, wires_pruned name circuit,
    fun _ inside gone => isSome_kind_of_pruned name circuit inside gone,
    fun _ inside => degree_pruned name circuit inside, size_pruned name circuit⟩

end Circuit

end CircuitDiagram
