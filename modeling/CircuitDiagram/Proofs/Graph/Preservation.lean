import CircuitDiagram.Proofs.Graph.Sound

/-!
What each operation does to a graph whose slots, index and links agree: which nodes there are
afterwards, that no wire is changed, and that slots, index and links still agree.
-/

namespace CircuitDiagram.Graph

variable {graph : Graph}

section Placing

-- A vacant slot has to be within bounds, or the node would be put nowhere.
theorem nodeAt_place (sound : graph.Sound) (node : Node) (slot : Nat) :
    (graph.place node).1.nodeAt? slot =
      if slot = (graph.place node).2 then some node else graph.nodeAt? slot := by
  unfold place
  cases vacant : graph.vacant with
  | nil =>
      by_cases same : slot = graph.slots.length
      · simp [nodeAt?, same]
      · by_cases inside : slot < graph.slots.length
        · simp [nodeAt?, same, List.getElem?_append_left inside]
        · have outside : graph.slots[slot]? = none := List.getElem?_eq_none (by omega)
          have beyond : (graph.slots ++ [some node])[slot]? = none := by
            apply List.getElem?_eq_none
            rw [List.length_append, List.length_singleton]
            omega
          simp only [nodeAt?, if_neg same, outside, beyond]
  | cons free others =>
      have inside := (sound.vacant free (by simp [vacant])).1
      by_cases same : slot = free
      · simp [nodeAt?, same, inside]
      · simp [nodeAt?, same, Ne.symm same]

/-- The slot taken for a node held none before. -/
theorem nodeAt_placed (sound : graph.Sound) (node : Node) :
    graph.nodeAt? (graph.place node).2 = none := by
  unfold place
  cases vacant : graph.vacant with
  | nil => simp [nodeAt?]
  | cons free others => exact (sound.vacant free (by simp [vacant])).2

theorem vacant_place (graph : Graph) (node : Node) :
    (graph.place node).1.vacant = graph.vacant.tail := by
  unfold place
  cases vacant : graph.vacant with
  | nil => simp
  | cons => rfl

theorem length_slots_place (graph : Graph) (node : Node) :
    graph.slots.length ≤ (graph.place node).1.slots.length := by
  unfold place
  cases graph.vacant <;> simp

theorem not_mem_vacant_place (sound : graph.Sound) (node : Node) :
    (graph.place node).2 ∉ graph.vacant.tail := by
  unfold place
  cases vacant : graph.vacant with
  | nil => simp
  | cons free others =>
      have distinct := sound.distinct
      rw [vacant] at distinct
      exact (List.nodup_cons.mp distinct).1

theorem links_place (graph : Graph) (node : Node) :
    (graph.place node).1.links = graph.links := by
  unfold place
  cases graph.vacant <;> rfl

theorem index_place (graph : Graph) (node : Node) :
    (graph.place node).1.index = graph.index := by
  unfold place
  cases graph.vacant <;> rfl

theorem nodes_place (full : graph.vacant = []) (node : Node) :
    (graph.place node).1.nodes = graph.nodes ++ [node] := by
  simp [place, full, nodes]

end Placing

section Ensuring

theorem ensure_of_found {id : String} {slot : Nat} (found : graph.slot? id = some slot) :
    graph.ensure id = (graph, slot) := by
  simp [ensure, found]

/-- What adding a node that is not there comes to. -/
def added (graph : Graph) (id : String) : Graph × Nat :=
  ({ (graph.place ⟨id, none⟩).1 with
      index := (graph.place ⟨id, none⟩).1.index.set id (graph.place ⟨id, none⟩).2 },
    (graph.place ⟨id, none⟩).2)

theorem ensure_of_absent {id : String} (absent : graph.slot? id = none) :
    graph.ensure id = graph.added id := by
  simp [ensure, added, absent]

theorem nodeAt_added (sound : graph.Sound) (id : String) (slot : Nat) :
    (graph.added id).1.nodeAt? slot =
      if slot = (graph.added id).2 then some ⟨id, none⟩ else graph.nodeAt? slot :=
  nodeAt_place sound ⟨id, none⟩ slot

theorem slot_added (graph : Graph) (id other : String) :
    (graph.added id).1.slot? other =
      if other = id then some (graph.added id).2 else graph.slot? other := by
  unfold added slot?
  simp only [Table.get?_set, index_place]

/-- Nodes that were there stay in their slots. -/
theorem nodeAt_added_of_found (sound : graph.Sound) (id : String) {slot : Nat} {node : Node}
    (found : graph.nodeAt? slot = some node) :
    (graph.added id).1.nodeAt? slot = some node := by
  have other : slot ≠ (graph.added id).2 := by
    rintro rfl
    rw [added, nodeAt_placed sound] at found
    contradiction
  rw [nodeAt_added sound, if_neg other, found]

/-- The index leads to the new node, and to the others as before. -/
theorem indexed_added (sound : graph.Sound) {id : String} (absent : graph.slot? id = none)
    (name : String) (slot : Nat) :
    (graph.added id).1.slot? name = some slot ↔
      ∃ node, (graph.added id).1.nodeAt? slot = some node ∧ node.id = name := by
  rw [slot_added, nodeAt_added sound]
  by_cases same : name = id
  · subst same
    simp only [if_true, Option.some.injEq]
    constructor
    · rintro rfl
      exact ⟨⟨name, none⟩, by simp, rfl⟩
    · rintro ⟨node, found, sameId⟩
      split at found
      · rename_i placed
        exact placed.symm
      · have indexed := (sound.indexed name slot).mpr ⟨node, found, sameId⟩
        rw [absent] at indexed
        contradiction
  · rw [if_neg same, sound.indexed]
    constructor
    · rintro ⟨node, found, sameId⟩
      refine ⟨node, ?_, sameId⟩
      rw [← nodeAt_added sound]
      exact nodeAt_added_of_found sound id found
    · rintro ⟨node, found, sameId⟩
      split at found
      · cases found
        exact absurd sameId.symm same
      · exact ⟨node, found, sameId⟩

theorem sound_added (sound : graph.Sound) {id : String} (absent : graph.slot? id = none) :
    (graph.added id).1.Sound where
  indexed := indexed_added sound absent
  vacant slot listed := by
    rw [added, vacant_place] at listed
    have before := sound.vacant slot (List.mem_of_mem_tail listed)
    have other : slot ≠ (graph.added id).2 := by
      rintro rfl
      exact not_mem_vacant_place sound _ listed
    constructor
    · exact Nat.lt_of_lt_of_le before.1 (length_slots_place graph _)
    · rw [nodeAt_added sound, if_neg other]
      exact before.2
  distinct := by
    rw [added, vacant_place]
    exact sound.distinct.tail
  linked link inside := by
    rw [added, links_place] at inside
    obtain ⟨source, sink⟩ := sound.linked link inside
    obtain ⟨node, found⟩ := Option.isSome_iff_exists.mp source
    obtain ⟨other, foundOther⟩ := Option.isSome_iff_exists.mp sink
    -- Links end at live slots, so none ends at the one that is taken.
    simp [nodeAt_added_of_found sound id found, nodeAt_added_of_found sound id foundOther]

theorem sound_ensure (sound : graph.Sound) (id : String) : (graph.ensure id).1.Sound := by
  cases indexed : graph.slot? id with
  | some slot => rwa [ensure_of_found indexed]
  | none =>
      rw [ensure_of_absent indexed]
      exact sound_added sound indexed

theorem nodeAt_ensure_of_found (sound : graph.Sound) (id : String) {slot : Nat} {node : Node}
    (found : graph.nodeAt? slot = some node) : (graph.ensure id).1.nodeAt? slot = some node := by
  cases indexed : graph.slot? id with
  | some slot => rwa [ensure_of_found indexed]
  | none =>
      rw [ensure_of_absent indexed]
      exact nodeAt_added_of_found sound id found

theorem slot_ensure (graph : Graph) (id : String) :
    (graph.ensure id).1.slot? id = some (graph.ensure id).2 := by
  cases indexed : graph.slot? id with
  | some slot => rw [ensure_of_found indexed, indexed]
  | none => rw [ensure_of_absent indexed, slot_added, if_pos rfl]

theorem idAt_ensure (sound : graph.Sound) (id : String) :
    (graph.ensure id).1.idAt? (graph.ensure id).2 = some id := by
  obtain ⟨node, found, same⟩ :=
    ((sound_ensure sound id).indexed id (graph.ensure id).2).mp (slot_ensure graph id)
  simp [idAt?, found, same]

theorem idAt_ensure_of_named (sound : graph.Sound) (id : String) {slot : Nat} {other : String}
    (named : graph.idAt? slot = some other) : (graph.ensure id).1.idAt? slot = some other := by
  obtain ⟨node, found, same⟩ := Option.map_eq_some_iff.mp named
  simp [idAt?, nodeAt_ensure_of_found sound id found, same]

theorem node_ensure (sound : graph.Sound) (id other : String) :
    (graph.ensure id).1.node? other =
      if other = id ∧ graph.contains id = false then some ⟨id, none⟩ else graph.node? other := by
  cases indexed : graph.slot? id with
  | some slot =>
      have present : graph.contains id = true := by simp [contains, indexed]
      rw [ensure_of_found indexed]
      simp [present]
  | none =>
      have absent : graph.contains id = false := by simp [contains, indexed]
      rw [ensure_of_absent indexed, node?, slot_added]
      by_cases same : other = id
      · simp [same, absent, nodeAt_added sound]
      · simp only [same, false_and, if_false, node?]
        cases found : graph.slot? other with
        | none => rfl
        | some slot =>
            obtain ⟨node, foundNode, -⟩ := (sound.indexed other slot).mp found
            simp [nodeAt_added_of_found sound id foundNode, foundNode]

theorem links_ensure (graph : Graph) (id : String) : (graph.ensure id).1.links = graph.links := by
  cases indexed : graph.slot? id with
  | some slot => rw [ensure_of_found indexed]
  | none =>
      rw [ensure_of_absent indexed]
      exact links_place graph ⟨id, none⟩

theorem wires_ensure (sound : graph.Sound) (id : String) :
    (graph.ensure id).1.wires = graph.wires := by
  apply wires_congr (links_ensure graph id)
  intro link inside
  obtain ⟨wire, found⟩ := wire_of_link sound inside
  obtain ⟨source, sink, -⟩ := wire_eq_some_iff.mp found
  rw [source, sink]
  exact ⟨idAt_ensure_of_named sound id source, idAt_ensure_of_named sound id sink⟩

theorem vacant_ensure (full : graph.vacant = []) (id : String) :
    (graph.ensure id).1.vacant = [] := by
  cases indexed : graph.slot? id with
  | some slot => rwa [ensure_of_found indexed]
  | none =>
      rw [ensure_of_absent indexed, added, vacant_place, full]
      rfl

/-- Where no slot is vacant, a node that is added comes last. -/
theorem nodes_ensure (full : graph.vacant = []) (id : String) :
    (graph.ensure id).1.nodes =
      if graph.contains id then graph.nodes else graph.nodes ++ [⟨id, none⟩] := by
  cases indexed : graph.slot? id with
  | some slot =>
      rw [ensure_of_found indexed]
      simp [contains, indexed]
  | none =>
      rw [ensure_of_absent indexed]
      simp only [contains, indexed, Option.isSome_none, Bool.false_eq_true, if_false]
      exact nodes_place full ⟨id, none⟩

end Ensuring

section Assigning

variable {slot : Nat} {kind : Kind}

theorem nodeAt_assign (graph : Graph) (slot other : Nat) (kind : Kind) :
    (graph.assign slot kind).nodeAt? other =
      if other = slot then
        (graph.nodeAt? slot).map fun node => { node with kind := some kind }
      else graph.nodeAt? other := by
  by_cases same : other = slot
  · subst same
    simp only [assign, nodeAt?, List.getElem?_modify_eq, if_true]
    cases graph.slots[other]? <;> simp
  · simp [assign, nodeAt?, same, Ne.symm same]

theorem idAt_assign (graph : Graph) (slot other : Nat) (kind : Kind) :
    (graph.assign slot kind).idAt? other = graph.idAt? other := by
  rw [idAt?, nodeAt_assign, idAt?]
  split
  · rename_i same
    subst same
    cases graph.nodeAt? other <;> rfl
  · rfl

theorem isSome_nodeAt (graph : Graph) (slot : Nat) :
    (graph.nodeAt? slot).isSome = (graph.idAt? slot).isSome := by
  simp [idAt?]

theorem exists_nodeAt_iff (graph : Graph) (slot : Nat) (id : String) :
    (∃ node, graph.nodeAt? slot = some node ∧ node.id = id) ↔ graph.idAt? slot = some id := by
  rw [idAt?, Option.map_eq_some_iff]

theorem sound_assign (sound : graph.Sound) (slot : Nat) (kind : Kind) :
    (graph.assign slot kind).Sound where
  indexed id other := by
    rw [exists_nodeAt_iff, idAt_assign, ← exists_nodeAt_iff]
    exact sound.indexed id other
  vacant other listed := by
    obtain ⟨inside, none⟩ := sound.vacant other listed
    constructor
    · simpa [assign] using inside
    · rw [← Option.isNone_iff_eq_none, ← Option.not_isSome, isSome_nodeAt, idAt_assign,
        ← isSome_nodeAt, none]
      rfl
  distinct := sound.distinct
  linked link inside := by
    rw [isSome_nodeAt, isSome_nodeAt, idAt_assign, idAt_assign, ← isSome_nodeAt, ← isSome_nodeAt]
    exact sound.linked link inside

theorem wires_assign (graph : Graph) (slot : Nat) (kind : Kind) :
    (graph.assign slot kind).wires = graph.wires :=
  wires_congr rfl fun _ _ => ⟨idAt_assign graph slot _ kind, idAt_assign graph slot _ kind⟩

theorem nodes_assign (sound : graph.Sound) {id : String} (named : graph.idAt? slot = some id)
    (kind : Kind) :
    (graph.assign slot kind).nodes =
      graph.nodes.map fun node => if node.id = id then { node with kind := some kind } else node := by
  have length : (graph.assign slot kind).slots.length = graph.slots.length := by simp [assign]
  rw [nodes_eq_filterMap, nodes_eq_filterMap, length, List.map_filterMap]
  apply List.filterMap_congr
  intro other _
  rw [nodeAt_assign]
  by_cases same : other = slot
  · subst same
    obtain ⟨node, found, rfl⟩ := Option.map_eq_some_iff.mp named
    simp [found]
  · rw [if_neg same]
    cases found : graph.nodeAt? other with
    | none => rfl
    | some node =>
        have namedOther : graph.idAt? other = some node.id := by simp [idAt?, found]
        have different : node.id ≠ id := by
          rwa [ne_eq, ← idAt_eq_iff sound named namedOther]
        simp [different]

theorem node_assign (sound : graph.Sound) {id : String} (indexed : graph.slot? id = some slot)
    (kind : Kind) (other : String) :
    (graph.assign slot kind).node? other =
      if other = id then some ⟨id, some kind⟩ else graph.node? other := by
  have index : (graph.assign slot kind).slot? other = graph.slot? other := rfl
  rw [node?, index]
  by_cases same : other = id
  · subst same
    obtain ⟨node, found, rfl⟩ := (sound.indexed other slot).mp indexed
    simp [indexed, nodeAt_assign, found]
  · rw [if_neg same, node?]
    cases indexedOther : graph.slot? other with
    | none => rfl
    | some place =>
        have different : place ≠ slot := by
          rintro rfl
          obtain ⟨node, found, sameId⟩ := (sound.indexed id place).mp indexed
          obtain ⟨otherNode, foundOther, sameOther⟩ := (sound.indexed other place).mp indexedOther
          cases found.symm.trans foundOther
          exact same (sameOther.symm.trans sameId)
        simp [nodeAt_assign, different]

theorem sound_declare (sound : graph.Sound) (id : String) (kind : Kind) :
    (graph.declare id kind).1.Sound :=
  sound_assign (sound_ensure sound id) _ kind

theorem wires_declare (sound : graph.Sound) (id : String) (kind : Kind) :
    (graph.declare id kind).1.wires = graph.wires := by
  rw [declare, wires_assign, wires_ensure sound]

theorem node_declare (sound : graph.Sound) (id other : String) (kind : Kind) :
    (graph.declare id kind).1.node? other =
      if other = id then some ⟨id, some kind⟩ else graph.node? other := by
  rw [declare, node_assign (sound_ensure sound id) (slot_ensure graph id), node_ensure sound]
  by_cases same : other = id <;> simp [same]

theorem vacant_declare (full : graph.vacant = []) (id : String) (kind : Kind) :
    (graph.declare id kind).1.vacant = [] :=
  vacant_ensure full id

/-- Where no slot is vacant, a node that is declared first comes last. -/
theorem nodes_declare (sound : graph.Sound) (full : graph.vacant = []) {id : String}
    (absent : graph.contains id = false) (kind : Kind) :
    (graph.declare id kind).1.nodes = graph.nodes ++ [⟨id, some kind⟩] := by
  have others : ∀ node ∈ graph.nodes, node.id ≠ id := by
    intro node inside same
    have present := (contains_iff sound).mpr ⟨node, inside, same⟩
    rw [absent] at present
    contradiction
  have kept : (graph.nodes.map fun node =>
      if node.id = id then { node with kind := some kind } else node) = graph.nodes := by
    conv_rhs => rw [← List.map_id graph.nodes]
    apply List.map_congr_left
    intro node inside
    simp [others node inside]
  rw [declare, nodes_assign (sound_ensure sound id) (idAt_ensure sound id), nodes_ensure full]
  simp [absent, kept]

end Assigning

section Connecting

theorem sound_connect (sound : graph.Sound) (wire : Wire) : (graph.connect wire).Sound := by
  have source := sound_ensure sound wire.source
  have sink := sound_ensure source wire.sink
  refine ⟨sink.indexed, sink.vacant, sink.distinct, ?_⟩
  intro link inside
  rcases List.mem_append.mp inside with before | last
  · exact sink.linked link before
  · obtain rfl := List.mem_singleton.mp last
    -- The sink is ensured after the source, which keeps its slot.
    have sourceNamed := idAt_ensure_of_named source wire.sink (idAt_ensure sound wire.source)
    have sinkNamed := idAt_ensure source wire.sink
    constructor
    · exact isSome_nodeAt _ _ ▸ Option.isSome_iff_exists.mpr ⟨_, sourceNamed⟩
    · exact isSome_nodeAt _ _ ▸ Option.isSome_iff_exists.mpr ⟨_, sinkNamed⟩

theorem wires_connect (sound : graph.Sound) (wire : Wire) :
    (graph.connect wire).wires = graph.wires ++ [wire] := by
  have source := sound_ensure sound wire.source
  have before : ((graph.ensure wire.source).1.ensure wire.sink).1.wires = graph.wires := by
    rw [wires_ensure source, wires_ensure sound]
  have last : ((graph.ensure wire.source).1.ensure wire.sink).1.wire?
      ⟨(graph.ensure wire.source).2, ((graph.ensure wire.source).1.ensure wire.sink).2, wire.pin⟩ =
        some wire :=
    wire_eq_some_iff.mpr ⟨idAt_ensure_of_named source wire.sink (idAt_ensure sound wire.source),
      idAt_ensure source wire.sink, rfl⟩
  rw [← before]
  unfold connect
  rw [wires, wires, List.filterMap_append]
  congr 1
  exact List.filterMap_cons_some last

theorem node_connect (graph : Graph) (wire : Wire) (id : String) :
    (graph.connect wire).node? id =
      ((graph.ensure wire.source).1.ensure wire.sink).1.node? id := rfl

theorem nodes_connect (graph : Graph) (wire : Wire) :
    (graph.connect wire).nodes = ((graph.ensure wire.source).1.ensure wire.sink).1.nodes := rfl

theorem vacant_connect (full : graph.vacant = []) (wire : Wire) :
    (graph.connect wire).vacant = [] :=
  vacant_ensure (vacant_ensure full wire.source) wire.sink

end Connecting

section Removing

variable {slot : Nat} {node : Node}

theorem nodeAt_remove (graph : Graph) (slot other : Nat) (node : Node) :
    (graph.remove slot node).nodeAt? other =
      if other = slot then none else graph.nodeAt? other := by
  by_cases same : other = slot
  · subst same
    simp only [remove, nodeAt?, List.getElem?_set_self', if_true]
    cases graph.slots[other]? <;> rfl
  · simp [remove, nodeAt?, same, Ne.symm same]

theorem indexed_remove (sound : graph.Sound) (found : graph.nodeAt? slot = some node)
    (id : String) (other : Nat) :
    (graph.remove slot node).slot? id = some other ↔
      ∃ still, (graph.remove slot node).nodeAt? other = some still ∧ still.id = id := by
  have index : (graph.remove slot node).slot? id =
      if id = node.id then none else graph.slot? id := Table.get?_remove graph.index node.id id
  rw [index, nodeAt_remove]
  by_cases same : id = node.id
  · rw [if_pos same]
    constructor
    · intro impossible
      contradiction
    · rintro ⟨still, foundStill, sameId⟩
      split at foundStill
      · contradiction
      · rename_i different
        exact absurd (slot_unique sound foundStill found (sameId.trans same)) different
  · rw [if_neg same, sound.indexed]
    constructor
    · rintro ⟨still, foundStill, sameId⟩
      refine ⟨still, ?_, sameId⟩
      rw [if_neg, foundStill]
      rintro rfl
      cases found.symm.trans foundStill
      exact same sameId.symm
    · rintro ⟨still, foundStill, sameId⟩
      split at foundStill
      · contradiction
      · exact ⟨still, foundStill, sameId⟩

theorem sound_remove (sound : graph.Sound) (found : graph.nodeAt? slot = some node) :
    (graph.remove slot node).Sound where
  indexed := indexed_remove sound found
  vacant other listed := by
    have length : (graph.remove slot node).slots.length = graph.slots.length := by simp [remove]
    rw [length, nodeAt_remove]
    rcases List.mem_cons.mp listed with same | before
    · subst same
      exact ⟨slot_lt_of_nodeAt found, if_pos rfl⟩
    · obtain ⟨inside, none⟩ := sound.vacant other before
      exact ⟨inside, by simp [none]⟩
  distinct := by
    refine List.nodup_cons.mpr ⟨?_, sound.distinct⟩
    intro listed
    rw [(sound.vacant slot listed).2] at found
    contradiction
  linked link inside := by
    obtain ⟨before, apart⟩ := List.mem_filter.mp inside
    simp only [Link.touches, Bool.not_eq_eq_eq_not, Bool.not_true, Bool.or_eq_false_iff,
      beq_eq_false_iff_ne] at apart
    rw [nodeAt_remove, nodeAt_remove, if_neg apart.1, if_neg apart.2]
    exact sound.linked link before

/-- A node without links takes no link with it. -/
theorem links_remove (isolated : graph.degreeAt slot = 0) (node : Node) :
    (graph.remove slot node).links = graph.links := by
  obtain ⟨sources, sinks⟩ := Nat.add_eq_zero_iff.mp isolated
  rw [List.countP_eq_zero] at sources sinks
  apply List.filter_eq_self.mpr
  intro link inside
  simp [Link.touches, sources link inside, sinks link inside]

theorem wires_remove (isolated : graph.degreeAt slot = 0) (node : Node) :
    (graph.remove slot node).wires = graph.wires := by
  obtain ⟨sources, sinks⟩ := Nat.add_eq_zero_iff.mp isolated
  rw [List.countP_eq_zero] at sources sinks
  apply wires_congr (links_remove isolated node)
  intro link inside
  have source : link.source ≠ slot := by simpa using sources link inside
  have sink : link.sink ≠ slot := by simpa using sinks link inside
  simp [idAt?, nodeAt_remove, source, sink]

/-- A graph after the nodes in the slots are removed, none of which had a link. -/
structure Cleared (graph after : Graph) (slots : List Nat) : Prop where
  sound : after.Sound
  nodeAt (slot : Nat) :
    after.nodeAt? slot = if slot ∈ slots then none else graph.nodeAt? slot
  length : after.slots.length = graph.slots.length
  wires : after.wires = graph.wires

-- No link is lost on the way, so slots without a link at first have none when their turn comes.
theorem cleared_removeAll (sound : graph.Sound) (slots : List Nat)
    (isolated : ∀ slot ∈ slots, graph.degreeAt slot = 0) :
    Cleared graph (graph.removeAll slots).1 slots := by
  induction slots generalizing graph with
  | nil => exact ⟨sound, fun _ => by simp [removeAll], rfl, rfl⟩
  | cons slot slots ih =>
      have later : ∀ other ∈ slots, graph.degreeAt other = 0 :=
        fun other inside => isolated other (List.mem_cons_of_mem slot inside)
      rw [removeAll]
      split
      · rename_i none
        have cleared := ih sound later
        refine ⟨cleared.sound, ?_, cleared.length, cleared.wires⟩
        intro other
        rw [cleared.nodeAt]
        by_cases same : other = slot
        · subst same
          simp [none]
        · simp [same]
      · rename_i node found
        have here := isolated slot (List.mem_cons_self)
        have links := links_remove here node
        have cleared := ih (sound_remove sound found) (by
          intro other inside
          rw [degreeAt, links]
          exact later other inside)
        refine ⟨cleared.sound, ?_, ?_, cleared.wires.trans (wires_remove here node)⟩
        · intro other
          rw [cleared.nodeAt, nodeAt_remove]
          by_cases same : other = slot <;> simp [same]
        · rw [cleared.length]
          simp [remove]

-- A slot given twice would be vacant the second time, and its name told only once.
theorem names_removeAll (graph : Graph) (slots : List Nat) (distinct : slots.Nodup) :
    (graph.removeAll slots).2 = slots.filterMap graph.idAt? := by
  induction slots generalizing graph with
  | nil => rfl
  | cons slot slots ih =>
      obtain ⟨apart, distinct⟩ := List.nodup_cons.mp distinct
      rw [removeAll]
      split
      · rename_i none
        rw [ih graph distinct, List.filterMap_cons_none (by simp [idAt?, none])]
      · rename_i node found
        have named : graph.idAt? slot = some node.id := by simp [idAt?, found]
        have kept : ∀ other ∈ slots, (graph.remove slot node).idAt? other = graph.idAt? other := by
          intro other inside
          have different : other ≠ slot := by
            rintro rfl
            exact apart inside
          simp [idAt?, nodeAt_remove, different]
        simp only [ih (graph.remove slot node) distinct, List.filterMap_congr kept,
          List.filterMap_cons_some named]

end Removing

section Pruning

/-- Whether some wire ends at the name. -/
def mentioned (wires : List Wire) (id : String) : Bool :=
  wires.any fun wire => wire.source == id || wire.sink == id

theorem endCount_eq_zero_iff {wires : List Wire} {id : String} :
    endCount wires id = 0 ↔ mentioned wires id = false := by
  rw [endCount, Nat.add_eq_zero_iff, List.countP_eq_zero, List.countP_eq_zero, mentioned,
    List.any_eq_false]
  constructor
  · rintro ⟨sources, sinks⟩ wire inside
    simp [sources wire inside, sinks wire inside]
  · intro apart
    constructor
    · intro wire inside source
      exact apart wire inside (by simp [source])
    · intro wire inside sink
      exact apart wire inside (by simp [sink])

theorem isolated_nodup (graph : Graph) : graph.isolated.Nodup :=
  List.Nodup.filter _ List.nodup_range

theorem mem_isolated_iff (sound : graph.Sound) {slot : Nat} {node : Node}
    (found : graph.nodeAt? slot = some node) :
    slot ∈ graph.isolated ↔ mentioned graph.wires node.id = false := by
  have named : graph.idAt? slot = some node.id := by simp [idAt?, found]
  rw [isolated, List.mem_filter, List.mem_range, ← endCount_eq_zero_iff, ← degreeAt_eq sound named]
  simp [found, slot_lt_of_nodeAt found]

theorem cleared_prune (sound : graph.Sound) : Cleared graph graph.prune.1 graph.isolated := by
  apply cleared_removeAll sound
  intro slot inside
  obtain ⟨_, isolated⟩ := List.mem_filter.mp inside
  exact eq_of_beq (Bool.and_eq_true_iff.mp isolated).2

theorem nodes_prune (sound : graph.Sound) :
    graph.prune.1.nodes = graph.nodes.filter fun node => mentioned graph.wires node.id := by
  have cleared := cleared_prune sound
  rw [nodes_eq_filterMap, nodes_eq_filterMap, cleared.length, List.filter_filterMap]
  apply List.filterMap_congr
  intro slot _
  rw [cleared.nodeAt]
  cases found : graph.nodeAt? slot with
  | none => simp
  | some node =>
      by_cases gone : slot ∈ graph.isolated
      · have apart := (mem_isolated_iff sound found).mp gone
        simp [gone, apart, Option.filter]
      · have touched : mentioned graph.wires node.id = true := by
          simpa using mt (mem_isolated_iff sound found).mpr gone
        simp [gone, touched, Option.filter]

theorem names_prune (sound : graph.Sound) :
    graph.prune.2 =
      (graph.nodes.filter fun node => !mentioned graph.wires node.id).map Node.id := by
  rw [prune, names_removeAll graph _ (isolated_nodup graph), isolated, List.filterMap_filter,
    nodes_eq_filterMap, List.filter_filterMap, List.map_filterMap]
  apply List.filterMap_congr
  intro slot _
  cases found : graph.nodeAt? slot with
  | none => simp
  | some node =>
      have named : graph.idAt? slot = some node.id := by simp [idAt?, found]
      have degree := degreeAt_eq sound named
      by_cases touched : mentioned graph.wires node.id = true
      · have linked : endCount graph.wires node.id ≠ 0 := by
          rw [ne_eq, endCount_eq_zero_iff, touched]
          decide
        simp [degree, linked, touched, Option.filter]
      · rw [Bool.not_eq_true] at touched
        simp [degree, endCount_eq_zero_iff.mpr touched, touched, named, Option.filter]

theorem node_prune (sound : graph.Sound) (id : String) :
    graph.prune.1.node? id = if mentioned graph.wires id then graph.node? id else none := by
  apply Option.ext
  intro node
  rw [node_eq_some_iff (cleared_prune sound).sound, nodes_prune sound, List.mem_filter]
  split
  · rename_i touched
    rw [node_eq_some_iff sound]
    constructor
    · rintro ⟨⟨inside, _⟩, same⟩
      exact ⟨inside, same⟩
    · rintro ⟨inside, same⟩
      exact ⟨⟨inside, by rwa [same]⟩, same⟩
  · rename_i apart
    constructor
    · rintro ⟨⟨_, touched⟩, same⟩
      rw [same] at touched
      exact absurd touched apart
    · intro impossible
      contradiction

end Pruning

end CircuitDiagram.Graph
