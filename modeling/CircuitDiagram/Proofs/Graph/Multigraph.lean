import CircuitDiagram.Proofs.Graph.Preservation
import Mathlib.Algebra.BigOperators.Group.List.Basic
import Mathlib.Algebra.GroupWithZero.Nat

/-!
Graphs against multigraphs that know of no slots: a kind for each name, and a list of wires. Every
operation on a graph does what its counterpart does to the multigraph that the graph represents, so
whatever is done to a graph in whatever order, a slot that is taken again never shows.
-/

namespace CircuitDiagram

structure Multigraph where
  kinds : Table (Option Kind)
  wires : List Wire

inductive Operation where
  | declare (id : String) (kind : Kind)
  | ensure (id : String)
  | connect (wire : Wire)
  | prune

def Graph.perform (graph : Graph) : Operation → Graph
  | .declare id kind => (graph.declare id kind).1
  | .ensure id => (graph.ensure id).1
  | .connect wire => graph.connect wire
  | .prune => graph.prune.1

/-- The graph that the operations make of an empty one. -/
def Graph.run (name : String) (operations : List Operation) : Graph :=
  operations.foldl Graph.perform (.empty name)

namespace Multigraph

def empty : Multigraph :=
  ⟨.empty, []⟩

variable (state : Multigraph)

def declare (id : String) (kind : Kind) : Multigraph :=
  { state with kinds := state.kinds.set id (some kind) }

def ensure (id : String) : Multigraph :=
  if id ∈ state.kinds.names then state else { state with kinds := state.kinds.set id none }

def connect (wire : Wire) : Multigraph :=
  { (state.ensure wire.source).ensure wire.sink with wires := state.wires ++ [wire] }

/-- Only the names at the ends of wires stay. -/
def prune : Multigraph :=
  { state with kinds := state.kinds.keep (Graph.mentioned state.wires) }

def perform (state : Multigraph) : Operation → Multigraph
  | .declare id kind => state.declare id kind
  | .ensure id => state.ensure id
  | .connect wire => state.connect wire
  | .prune => state.prune

def run (operations : List Operation) : Multigraph :=
  operations.foldl perform empty

end Multigraph

namespace Graph

variable {graph : Graph} {state : Multigraph}

structure Represents (graph : Graph) (state : Multigraph) : Prop where
  sound : graph.Sound
  node (id : String) : graph.node? id = (state.kinds.get? id).map (Node.mk id)
  wires : graph.wires = state.wires

theorem contains_eq_isSome_node (sound : graph.Sound) (id : String) :
    graph.contains id = (graph.node? id).isSome := by
  rw [contains, node?]
  cases indexed : graph.slot? id with
  | none => rfl
  | some slot =>
      obtain ⟨node, found, -⟩ := (sound.indexed id slot).mp indexed
      simp [found]

theorem Represents.contains_iff (represents : Represents graph state) (id : String) :
    graph.contains id = true ↔ id ∈ state.kinds.names := by
  rw [contains_eq_isSome_node represents.sound, represents.node, Option.isSome_map,
    state.kinds.mem_names_iff]

theorem represents_empty (name : String) : Represents (empty name) .empty where
  sound := sound_empty name
  node _ := rfl
  wires := rfl

theorem represents_ensure (represents : Represents graph state) (id : String) :
    Represents (graph.ensure id).1 (state.ensure id) where
  sound := sound_ensure represents.sound id
  node other := by
    rw [node_ensure represents.sound, represents.node, Multigraph.ensure]
    by_cases present : id ∈ state.kinds.names
    · have contained := (represents.contains_iff id).mpr present
      simp [present, contained]
    · have absent : graph.contains id = false := by
        rw [← Bool.not_eq_true, represents.contains_iff]
        exact present
      rw [if_neg present, Table.get?_set]
      by_cases same : other = id <;> simp [same, absent]
  wires := by
    rw [wires_ensure represents.sound, represents.wires, Multigraph.ensure]
    split <;> rfl

theorem represents_declare (represents : Represents graph state) (id : String) (kind : Kind) :
    Represents (graph.declare id kind).1 (state.declare id kind) where
  sound := sound_declare represents.sound id kind
  node other := by
    rw [node_declare represents.sound, represents.node, Multigraph.declare, Table.get?_set]
    by_cases same : other = id <;> simp [same]
  wires := (wires_declare represents.sound id kind).trans represents.wires

theorem represents_connect (represents : Represents graph state) (wire : Wire) :
    Represents (graph.connect wire) (state.connect wire) where
  sound := sound_connect represents.sound wire
  node id := by
    rw [node_connect]
    exact (represents_ensure (represents_ensure represents wire.source) wire.sink).node id
  wires := by
    rw [wires_connect represents.sound, represents.wires]
    rfl

theorem represents_prune (represents : Represents graph state) :
    Represents graph.prune.1 state.prune where
  sound := (cleared_prune represents.sound).sound
  node id := by
    rw [node_prune represents.sound, represents.node, represents.wires, Multigraph.prune,
      Table.get?_keep]
    split <;> rfl
  wires := (cleared_prune represents.sound).wires.trans represents.wires

theorem represents_perform (represents : Represents graph state) (operation : Operation) :
    Represents (graph.perform operation) (state.perform operation) := by
  cases operation with
  | declare id kind => exact represents_declare represents id kind
  | ensure id => exact represents_ensure represents id
  | connect wire => exact represents_connect represents wire
  | prune => exact represents_prune represents

theorem run_concat (name : String) (operations : List Operation) (operation : Operation) :
    run name (operations ++ [operation]) = (run name operations).perform operation :=
  List.foldl_concat ..

-- By the last operation, which finds a graph that represents whatever came before.
theorem represents_run (name : String) (operations : List Operation) :
    Represents (run name operations) (Multigraph.run operations) := by
  induction operations using List.reverseRecOn with
  | nil => exact represents_empty name
  | append_singleton operations operation ih =>
      rw [run_concat, Multigraph.run, List.foldl_concat]
      exact represents_perform ih operation

-- A slot is taken again by a node of another name.
example : (run "graph" [.ensure "a", .connect ⟨"b", "b", "p"⟩, .prune, .ensure "c"]).slots =
    [some ⟨"c", none⟩, some ⟨"b", none⟩] := by
  decide +kernel

section Degrees

theorem sum_indicator (names : List String) (wanted : String) :
    (names.map fun name => if wanted == name then 1 else 0).sum = names.count wanted := by
  induction names with
  | nil => rfl
  | cons name names ih =>
      rw [List.map_cons, List.sum_cons, ih, List.count_cons, Nat.add_comm]
      by_cases same : wanted = name
      · simp [same]
      · simp [same, Ne.symm same]

/-- If one end of each wire has its name in a list without repetitions, then counting these ends by
names counts each wire once. -/
theorem sum_countP {names : List String} (distinct : names.Nodup) (named : Wire → String)
    (wires : List Wire) (covered : ∀ wire ∈ wires, named wire ∈ names) :
    (names.map fun name => wires.countP fun wire => named wire == name).sum = wires.length := by
  induction wires with
  | nil => simp
  | cons wire wires ih =>
      have here : (names.map fun name => if named wire == name then 1 else 0).sum = 1 := by
        rw [sum_indicator]
        exact List.count_eq_one_of_mem distinct (covered wire (List.mem_cons_self))
      have others := ih fun other inside => covered other (List.mem_cons_of_mem wire inside)
      simp only [List.countP_cons, List.sum_map_add, here, others, List.length_cons]

theorem sum_endCount {names : List String} (distinct : names.Nodup) (wires : List Wire)
    (covered : ∀ wire ∈ wires, wire.source ∈ names ∧ wire.sink ∈ names) :
    (names.map (endCount wires)).sum = 2 * wires.length := by
  have sources := sum_countP distinct Wire.source wires fun wire inside => (covered wire inside).1
  have sinks := sum_countP distinct Wire.sink wires fun wire inside => (covered wire inside).2
  have parts : endCount wires = fun name =>
      wires.countP (fun wire => wire.source == name) +
        wires.countP (fun wire => wire.sink == name) := rfl
  rw [parts, List.sum_map_add, sources, sinks]
  omega

end Degrees

section Observers

/-- All that can be asked of a graph is as the multigraph has it. -/
structure Observed (graph : Graph) (state : Multigraph) : Prop where
  contains (id : String) : graph.contains id = true ↔ id ∈ state.kinds.names
  node (id : String) : graph.node? id = (state.kinds.get? id).map fun kind => ⟨id, kind⟩
  nodes : graph.nodes.Perm (state.kinds.entries.map fun entry => ⟨entry.1, entry.2⟩)
  nodesOnce : (graph.nodes.map Node.id).Nodup
  size : graph.size = state.kinds.size
  isEmpty : graph.isEmpty = state.kinds.isEmpty
  wires : graph.wires = state.wires
  wireCount : graph.wireCount = state.wires.length
  ends (wire : Wire) (inside : wire ∈ state.wires) :
    wire.source ∈ state.kinds.names ∧ wire.sink ∈ state.kinds.names
  degree (id : String) :
    graph.degree? id =
      if id ∈ state.kinds.names then
        some (state.wires.countP (fun wire => wire.source == id) +
          state.wires.countP (fun wire => wire.sink == id))
      else none
  degrees : (graph.nodes.map fun node => (graph.degree? node.id).getD 0).sum = 2 * graph.wireCount

theorem mem_nodes_of_represents (represents : Represents graph state) (node : Node) :
    node ∈ graph.nodes ↔ (node.id, node.kind) ∈ state.kinds.entries := by
  have own : graph.node? node.id = some node ↔ node ∈ graph.nodes := by
    simp [node_eq_some_iff represents.sound]
  rw [← own, represents.node, Option.map_eq_some_iff, ← Table.get?_eq_some_iff]
  constructor
  · rintro ⟨kind, found, same⟩
    rw [found, ← same]
  · intro found
    exact ⟨node.kind, found, rfl⟩

theorem nodes_perm (represents : Represents graph state) :
    graph.nodes.Perm (state.kinds.entries.map fun entry => ⟨entry.1, entry.2⟩) := by
  have distinct : (state.kinds.entries.map fun entry => (⟨entry.1, entry.2⟩ : Node)).Nodup := by
    apply List.Nodup.of_map Node.id
    rw [List.map_map]
    exact state.kinds.distinct
  rw [List.perm_ext_iff_of_nodup (nodup_ids represents.sound).of_map distinct]
  intro node
  rw [mem_nodes_of_represents represents, List.mem_map]
  constructor
  · intro inside
    exact ⟨_, inside, rfl⟩
  · rintro ⟨entry, inside, rfl⟩
    exact inside

theorem observed_of_represents (represents : Represents graph state) : Observed graph state := by
  have sound := represents.sound
  have nodes := nodes_perm represents
  have wireCount : graph.wireCount = state.wires.length := by
    rw [← length_wires sound, represents.wires]
  have ends : ∀ wire ∈ state.wires,
      wire.source ∈ state.kinds.names ∧ wire.sink ∈ state.kinds.names := by
    intro wire inside
    rw [← represents.wires] at inside
    obtain ⟨source, sink⟩ := ends_of_wire sound inside
    exact ⟨(represents.contains_iff _).mp source, (represents.contains_iff _).mp sink⟩
  have degree : ∀ id, graph.degree? id =
      if id ∈ state.kinds.names then some (endCount state.wires id) else none := by
    intro id
    rw [degree_eq sound, represents.wires]
    simp only [represents.contains_iff]
  have degrees : (graph.nodes.map fun node => (graph.degree? node.id).getD 0).sum =
      2 * graph.wireCount := by
    -- A sum does not depend on the order, so the entries may stand for the nodes.
    have each : ∀ entry ∈ state.kinds.entries,
        (graph.degree? entry.1).getD 0 = endCount state.wires entry.1 := by
      intro entry inside
      simp [degree, Table.names, List.mem_map_of_mem inside]
    rw [(nodes.map _).sum_eq, List.map_map, wireCount,
      ← sum_endCount state.kinds.distinct state.wires ends, List.map_map]
    congr 1
    exact List.map_congr_left each
  refine ⟨represents.contains_iff, represents.node, nodes, nodup_ids sound, ?_, ?_,
    represents.wires, wireCount, ends, degree, degrees⟩
  · rw [size, nodes.length_eq, List.length_map, Table.size]
  · rw [isEmpty, nodes.isEmpty_eq, List.isEmpty_map, Table.isEmpty]

/-- Whatever is done to a graph, in whatever order, leaves it as the multigraph has it to which the
same is done. -/
theorem run_observed (name : String) (operations : List Operation) :
    Observed (run name operations) (Multigraph.run operations) :=
  observed_of_represents (represents_run name operations)

end Observers

end Graph

end CircuitDiagram
