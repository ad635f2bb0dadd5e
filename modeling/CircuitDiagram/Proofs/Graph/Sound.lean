import CircuitDiagram.Graph
import CircuitDiagram.Proofs.Table
import Mathlib.Data.List.Nodup

/-!
Slots, index and links of a graph agree: the index leads to the live slots and to nothing else, the
vacant slots hold no node, and links end at live slots. Each operation keeps that up, and is told
here by what it does to the node in each slot. A slot that is taken again was touched by no link.
-/

namespace CircuitDiagram.Graph

variable {graph : Graph}

structure Sound (graph : Graph) : Prop where
  indexed (id : String) (slot : Nat) :
    graph.slot? id = some slot ↔ ∃ node, graph.nodeAt? slot = some node ∧ node.id = id
  vacant (slot : Nat) (listed : slot ∈ graph.vacant) :
    slot < graph.slots.length ∧ graph.nodeAt? slot = none
  distinct : graph.vacant.Nodup
  linked (link : Link) (inside : link ∈ graph.links) :
    (graph.nodeAt? link.source).isSome ∧ (graph.nodeAt? link.sink).isSome

theorem sound_empty (name : String) : (empty name).Sound where
  indexed id slot := by simp [empty, slot?, nodeAt?]
  vacant slot listed := by cases listed
  distinct := List.nodup_nil
  linked link inside := by cases inside

section Slots

theorem slot_lt_of_nodeAt {slot : Nat} {node : Node} (found : graph.nodeAt? slot = some node) :
    slot < graph.slots.length := by
  rw [nodeAt?, Option.join_eq_some_iff] at found
  exact (List.getElem?_eq_some_iff.mp found).1

-- Graphs are compared slot by slot, so their nodes are told by their slots.
theorem nodes_eq_filterMap (graph : Graph) :
    graph.nodes = (List.range graph.slots.length).filterMap graph.nodeAt? := by
  have slots : graph.slots =
      (List.range graph.slots.length).map fun slot => (graph.slots[slot]?).join := by
    apply List.ext_getElem?
    intro slot
    by_cases inside : slot < graph.slots.length
    · simp [inside]
    · simp [inside]
  rw [nodes]
  conv_lhs => rw [slots]
  rw [List.filterMap_map]
  rfl

theorem mem_nodes_iff {node : Node} :
    node ∈ graph.nodes ↔ ∃ slot, graph.nodeAt? slot = some node := by
  rw [nodes_eq_filterMap, List.mem_filterMap]
  constructor
  · rintro ⟨slot, _, found⟩
    exact ⟨slot, found⟩
  · rintro ⟨slot, found⟩
    exact ⟨slot, List.mem_range.mpr (slot_lt_of_nodeAt found), found⟩

/-- No two live slots hold nodes of one name. -/
theorem slot_unique (sound : graph.Sound) {left right : Nat} {node other : Node}
    (found : graph.nodeAt? left = some node) (foundOther : graph.nodeAt? right = some other)
    (same : node.id = other.id) : left = right := by
  have indexed := (sound.indexed node.id left).mpr ⟨node, found, rfl⟩
  have indexedOther := (sound.indexed node.id right).mpr ⟨other, foundOther, same.symm⟩
  exact Option.some.inj (indexed.symm.trans indexedOther)

theorem node_eq_some_iff (sound : graph.Sound) {id : String} {node : Node} :
    graph.node? id = some node ↔ node ∈ graph.nodes ∧ node.id = id := by
  rw [node?, Option.bind_eq_some_iff, mem_nodes_iff]
  constructor
  · rintro ⟨slot, indexed, found⟩
    obtain ⟨other, foundOther, same⟩ := (sound.indexed id slot).mp indexed
    cases found.symm.trans foundOther
    exact ⟨⟨slot, found⟩, same⟩
  · rintro ⟨⟨slot, found⟩, same⟩
    exact ⟨slot, (sound.indexed id slot).mpr ⟨node, found, same⟩, found⟩

theorem contains_iff (sound : graph.Sound) {id : String} :
    graph.contains id = true ↔ ∃ node ∈ graph.nodes, node.id = id := by
  rw [contains, Option.isSome_iff_exists]
  constructor
  · rintro ⟨slot, indexed⟩
    obtain ⟨node, found, same⟩ := (sound.indexed id slot).mp indexed
    exact ⟨node, mem_nodes_iff.mpr ⟨slot, found⟩, same⟩
  · rintro ⟨node, inside, same⟩
    obtain ⟨slot, found⟩ := mem_nodes_iff.mp inside
    exact ⟨slot, (sound.indexed id slot).mpr ⟨node, found, same⟩⟩

theorem nodup_ids (sound : graph.Sound) : (graph.nodes.map Node.id).Nodup := by
  rw [nodes_eq_filterMap, List.map_filterMap]
  apply List.Nodup.filterMap _ List.nodup_range
  intro left right id foundLeft foundRight
  obtain ⟨node, found, same⟩ := Option.map_eq_some_iff.mp foundLeft
  obtain ⟨other, foundOther, sameOther⟩ := Option.map_eq_some_iff.mp foundRight
  exact slot_unique sound found foundOther (same.trans sameOther.symm)

end Slots

section Wires

def idAt? (graph : Graph) (slot : Nat) : Option String :=
  (graph.nodeAt? slot).map Node.id

theorem wire_eq_some_iff {link : Link} {wire : Wire} :
    graph.wire? link = some wire ↔ graph.idAt? link.source = some wire.source ∧
      graph.idAt? link.sink = some wire.sink ∧ link.pin = wire.pin := by
  obtain ⟨source, sink, pin⟩ := wire
  unfold wire? idAt?
  cases graph.nodeAt? link.source <;> cases graph.nodeAt? link.sink <;> simp

/-- Links stand for the same wires as long as the slots they end at keep their names. -/
theorem wires_congr {other : Graph} (links : other.links = graph.links)
    (ids : ∀ link ∈ graph.links, other.idAt? link.source = graph.idAt? link.source ∧
      other.idAt? link.sink = graph.idAt? link.sink) : other.wires = graph.wires := by
  rw [wires, wires, links]
  apply List.filterMap_congr
  intro link inside
  apply Option.ext
  intro wire
  simp only [wire_eq_some_iff, (ids link inside).1, (ids link inside).2]

theorem wire_of_link (sound : graph.Sound) {link : Link} (inside : link ∈ graph.links) :
    ∃ wire, graph.wire? link = some wire := by
  obtain ⟨source, sink⟩ := sound.linked link inside
  obtain ⟨node, found⟩ := Option.isSome_iff_exists.mp source
  obtain ⟨other, foundOther⟩ := Option.isSome_iff_exists.mp sink
  exact ⟨⟨node.id, other.id, link.pin⟩, by simp [wire?, found, foundOther]⟩

theorem length_wires (sound : graph.Sound) : graph.wires.length = graph.wireCount := by
  rw [wires, wireCount, List.length_filterMap_eq_countP, List.countP_eq_length]
  intro link inside
  obtain ⟨wire, found⟩ := wire_of_link sound inside
  simp [found]

theorem ends_of_wire (sound : graph.Sound) {wire : Wire} (inside : wire ∈ graph.wires) :
    graph.contains wire.source = true ∧ graph.contains wire.sink = true := by
  obtain ⟨link, _, found⟩ := List.mem_filterMap.mp inside
  obtain ⟨source, sink, -⟩ := wire_eq_some_iff.mp found
  obtain ⟨node, foundNode, same⟩ := Option.map_eq_some_iff.mp source
  obtain ⟨other, foundOther, sameOther⟩ := Option.map_eq_some_iff.mp sink
  exact ⟨(contains_iff sound).mpr ⟨node, mem_nodes_iff.mpr ⟨_, foundNode⟩, same⟩,
    (contains_iff sound).mpr ⟨other, mem_nodes_iff.mpr ⟨_, foundOther⟩, sameOther⟩⟩

/-- How many ends of the wires carry the name. -/
def endCount (wires : List Wire) (id : String) : Nat :=
  wires.countP (fun wire => wire.source == id) + wires.countP (fun wire => wire.sink == id)

theorem idAt_eq_iff (sound : graph.Sound) {slot other : Nat} {id otherId : String}
    (named : graph.idAt? slot = some id) (namedOther : graph.idAt? other = some otherId) :
    other = slot ↔ otherId = id := by
  obtain ⟨node, found, rfl⟩ := Option.map_eq_some_iff.mp named
  obtain ⟨otherNode, foundOther, rfl⟩ := Option.map_eq_some_iff.mp namedOther
  constructor
  · rintro rfl
    cases found.symm.trans foundOther
    rfl
  · intro same
    exact slot_unique sound foundOther found same

/-- Ends of links at a slot are ends of wires at the name that the slot has. -/
theorem degreeAt_eq (sound : graph.Sound) {slot : Nat} {id : String}
    (named : graph.idAt? slot = some id) : graph.degreeAt slot = endCount graph.wires id := by
  rw [degreeAt, endCount, wires, List.countP_filterMap, List.countP_filterMap]
  congr 1
  · apply List.countP_congr
    intro link inside
    obtain ⟨wire, found⟩ := wire_of_link sound inside
    obtain ⟨source, _, _⟩ := wire_eq_some_iff.mp found
    simpa [found] using idAt_eq_iff sound named source
  · apply List.countP_congr
    intro link inside
    obtain ⟨wire, found⟩ := wire_of_link sound inside
    obtain ⟨_, sink, _⟩ := wire_eq_some_iff.mp found
    simpa [found] using idAt_eq_iff sound named sink

theorem degree_eq (sound : graph.Sound) (id : String) :
    graph.degree? id = if graph.contains id then some (endCount graph.wires id) else none := by
  unfold degree? contains
  cases indexed : graph.slot? id with
  | none => rfl
  | some slot =>
      obtain ⟨node, found, same⟩ := (sound.indexed id slot).mp indexed
      have named : graph.idAt? slot = some id := by simp [idAt?, found, same]
      simp [degreeAt_eq sound named]

end Wires

end CircuitDiagram.Graph
