import CircuitDiagram.Proofs.Graph.Multigraph

/-!
Pruning, told by what can be asked of a graph, and held against removing nodes one at a time. A node
without a wire has none in its turn either, whatever was removed before it, and no other node comes
to be without one. So nodes may go in any order, and the last of them leaves what pruning leaves.
-/

namespace CircuitDiagram.Graph

variable {graph after : Graph} {gone order : List String} {id : String}

/-- Removes the node of that name, if it has no wire as the graph stands. -/
def shed? (graph : Graph) (id : String) : Option Graph := do
  let slot ← graph.slot? id
  let node ← graph.nodeAt? slot
  if graph.degreeAt slot = 0 then some (graph.remove slot node) else none

/-- Removes nodes in the order of the names. Each must have no wire when its turn comes. -/
def shedAll? (graph : Graph) (order : List String) : Option Graph :=
  order.foldlM shed? graph

def Touched (graph : Graph) : Prop :=
  ∀ id, graph.degree? id ≠ some 0

section Degrees

theorem degree_eq_zero_iff (sound : graph.Sound) (id : String) :
    graph.degree? id = some 0 ↔
      graph.contains id = true ∧ mentioned graph.wires id = false := by
  rw [degree_eq sound, ← endCount_eq_zero_iff]
  split <;> simp [*]

end Degrees

section Shedding

/-- A graph after the nodes of these names are gone and nothing else. -/
structure Shed (graph after : Graph) (gone : List String) : Prop where
  sound : after.Sound
  nodes : after.nodes = graph.nodes.filter fun node => node.id ∉ gone
  wires : after.wires = graph.wires

theorem Shed.contains_iff (sound : graph.Sound) (shed : Shed graph after gone) (id : String) :
    after.contains id = true ↔ graph.contains id = true ∧ id ∉ gone := by
  simp only [Graph.contains_iff shed.sound, Graph.contains_iff sound, shed.nodes, List.mem_filter,
    decide_eq_true_eq]
  constructor
  · rintro ⟨node, ⟨inside, kept⟩, rfl⟩
    exact ⟨⟨node, inside, rfl⟩, kept⟩
  · rintro ⟨⟨node, inside, rfl⟩, kept⟩
    exact ⟨node, ⟨inside, kept⟩, rfl⟩

theorem Shed.node (sound : graph.Sound) (shed : Shed graph after gone) (id : String) :
    after.node? id = if id ∈ gone then none else graph.node? id := by
  apply Option.ext
  intro node
  rw [node_eq_some_iff shed.sound, shed.nodes, List.mem_filter, decide_eq_true_eq]
  split
  · rename_i left
    constructor
    · rintro ⟨⟨_, kept⟩, rfl⟩
      exact absurd left kept
    · intro impossible
      contradiction
  · rename_i kept
    rw [node_eq_some_iff sound]
    constructor
    · rintro ⟨⟨inside, _⟩, same⟩
      exact ⟨inside, same⟩
    · rintro ⟨inside, rfl⟩
      exact ⟨⟨inside, kept⟩, rfl⟩

/-- The wires are those of before, so the degrees of the nodes that stay are too. -/
theorem Shed.degree (sound : graph.Sound) (shed : Shed graph after gone) (id : String) :
    after.degree? id = if id ∈ gone then none else graph.degree? id := by
  rw [degree_eq shed.sound, degree_eq sound, shed.wires]
  simp only [shed.contains_iff sound]
  by_cases left : id ∈ gone <;> simp [left]

theorem Shed.trans {middle : Graph} {later : List String} (first : Shed graph middle gone)
    (second : Shed middle after later) : Shed graph after (gone ++ later) where
  sound := second.sound
  nodes := by
    rw [second.nodes, first.nodes, List.filter_filter]
    apply List.filter_congr
    intro node _
    simp [Bool.and_comm]
  wires := second.wires.trans first.wires

theorem nodes_remove {slot : Nat} {node : Node} (sound : graph.Sound)
    (found : graph.nodeAt? slot = some node) :
    (graph.remove slot node).nodes = graph.nodes.filter fun other => other.id ∉ [node.id] := by
  have length : (graph.remove slot node).slots.length = graph.slots.length := by simp [remove]
  rw [nodes_eq_filterMap, nodes_eq_filterMap, length, List.filter_filterMap]
  apply List.filterMap_congr
  intro other _
  rw [nodeAt_remove]
  by_cases same : other = slot
  · subst same
    simp [found, Option.filter]
  · cases foundOther : graph.nodeAt? other with
    | none => simp
    | some still =>
        have different : still.id ≠ node.id := fun names =>
          same (slot_unique sound foundOther found names)
        simp [same, different, Option.filter]

theorem shed_eq_some_iff : graph.shed? id = some after ↔
    ∃ slot node, graph.slot? id = some slot ∧ graph.nodeAt? slot = some node ∧
      graph.degreeAt slot = 0 ∧ graph.remove slot node = after := by
  simp only [shed?, Option.bind_eq_bind, Option.bind_eq_some_iff, Option.ite_none_right_eq_some,
    Option.some.injEq]
  constructor
  · rintro ⟨slot, indexed, node, found, alone, same⟩
    exact ⟨slot, node, indexed, found, alone, same⟩
  · rintro ⟨slot, node, indexed, found, alone, same⟩
    exact ⟨slot, indexed, node, found, alone, same⟩

theorem shed_of_shed (sound : graph.Sound) (removed : graph.shed? id = some after) :
    Shed graph after [id] := by
  obtain ⟨slot, node, indexed, found, alone, rfl⟩ := shed_eq_some_iff.mp removed
  obtain ⟨other, foundOther, rfl⟩ := (sound.indexed id slot).mp indexed
  cases found.symm.trans foundOther
  exact ⟨sound_remove sound found, nodes_remove sound found, wires_remove alone node⟩

theorem shedAll_cons : graph.shedAll? (id :: order) = some after ↔
    ∃ middle, graph.shed? id = some middle ∧ middle.shedAll? order = some after := by
  rw [shedAll?, List.foldlM_cons, Option.bind_eq_bind, Option.bind_eq_some_iff]
  rfl

theorem exists_shed_iff (sound : graph.Sound) :
    (∃ after, graph.shed? id = some after) ↔ graph.degree? id = some 0 := by
  simp only [shed_eq_some_iff, degree?, Option.map_eq_some_iff]
  constructor
  · rintro ⟨after, slot, node, indexed, found, alone, same⟩
    exact ⟨slot, indexed, alone⟩
  · rintro ⟨slot, indexed, alone⟩
    obtain ⟨node, found, -⟩ := (sound.indexed id slot).mp indexed
    exact ⟨_, slot, node, indexed, found, alone, rfl⟩

-- A node that is still to go has no wire yet, because no wire is lost or gained on the way.
theorem exists_shedAll_iff (sound : graph.Sound) :
    (∃ after, graph.shedAll? order = some after) ↔
      order.Nodup ∧ ∀ id ∈ order, graph.degree? id = some 0 := by
  induction order generalizing graph with
  | nil => simp [shedAll?]
  | cons id order ih =>
      simp only [shedAll_cons, List.nodup_cons, List.forall_mem_cons]
      constructor
      · rintro ⟨after, middle, removed, rest⟩
        have shed := shed_of_shed sound removed
        obtain ⟨distinct, alone⟩ := (ih shed.sound).mp ⟨after, rest⟩
        have others : ∀ other ∈ order, other ≠ id ∧ graph.degree? other = some 0 := by
          intro other inside
          have degree := alone other inside
          rw [shed.degree sound] at degree
          simpa using degree
        exact ⟨⟨fun inside => (others id inside).1 rfl, distinct⟩,
          (exists_shed_iff sound).mp ⟨middle, removed⟩, fun other inside => (others other inside).2⟩
      · rintro ⟨⟨apart, distinct⟩, here, later⟩
        obtain ⟨middle, removed⟩ := (exists_shed_iff sound).mpr here
        have shed := shed_of_shed sound removed
        have alone : ∀ other ∈ order, middle.degree? other = some 0 := by
          intro other inside
          have different : other ≠ id := by
            rintro rfl
            exact apart inside
          rw [shed.degree sound, if_neg (by simpa using different)]
          exact later other inside
        obtain ⟨after, rest⟩ := (ih shed.sound).mpr ⟨distinct, alone⟩
        exact ⟨after, middle, removed, rest⟩

theorem shed_of_shedAll (sound : graph.Sound) (removed : graph.shedAll? order = some after) :
    Shed graph after order := by
  induction order generalizing graph with
  | nil =>
      cases removed
      exact ⟨sound, by simp, rfl⟩
  | cons id order ih =>
      obtain ⟨middle, first, rest⟩ := shedAll_cons.mp removed
      have shed := shed_of_shed sound first
      exact shed.trans (ih shed.sound rest)

end Shedding

section Pruning

theorem names_prune_eq (sound : graph.Sound) :
    graph.prune.2 =
      (graph.nodes.filter fun node => graph.degree? node.id = some 0).map Node.id := by
  rw [names_prune sound]
  congr 1
  apply List.filter_congr
  intro node inside
  simp [degree_eq_zero_iff sound, (contains_iff sound).mpr ⟨node, inside, rfl⟩]

theorem mem_names_prune (sound : graph.Sound) (id : String) :
    id ∈ graph.prune.2 ↔ graph.degree? id = some 0 := by
  rw [names_prune_eq sound, List.mem_map]
  constructor
  · rintro ⟨node, selected, rfl⟩
    simpa using (List.mem_filter.mp selected).2
  · intro alone
    obtain ⟨node, inside, rfl⟩ :=
      (contains_iff sound).mp ((degree_eq_zero_iff sound id).mp alone).1
    exact ⟨node, List.mem_filter.mpr ⟨inside, by simpa using alone⟩, rfl⟩

theorem nodup_names_prune (sound : graph.Sound) : graph.prune.2.Nodup := by
  rw [names_prune_eq sound]
  exact (nodup_ids sound).sublist ((List.filter_sublist (l := graph.nodes)).map Node.id)

theorem shed_prune (sound : graph.Sound) : Shed graph graph.prune.1 graph.prune.2 where
  sound := (cleared_prune sound).sound
  nodes := by
    rw [nodes_prune sound]
    apply List.filter_congr
    intro node inside
    have present := (contains_iff sound).mpr ⟨node, inside, rfl⟩
    simp [mem_names_prune sound, degree_eq_zero_iff sound, present]
  wires := (cleared_prune sound).wires

theorem Shed.touched_iff (sound : graph.Sound) (shed : Shed graph after gone) :
    after.Touched ↔ ∀ id, graph.degree? id = some 0 → id ∈ gone := by
  constructor
  · intro touched id alone
    by_contra kept
    apply touched id
    rw [shed.degree sound, if_neg kept, alone]
  · intro all id alone
    rw [shed.degree sound] at alone
    split at alone
    · contradiction
    · rename_i kept
      exact kept (all id alone)

theorem touched_prune (sound : graph.Sound) : graph.prune.1.Touched :=
  ((shed_prune sound).touched_iff sound).mpr fun id => (mem_names_prune sound id).mpr

theorem prune_of_touched (sound : graph.Sound) (touched : graph.Touched) :
    graph.prune = (graph, []) := by
  have none : graph.isolated = [] := by
    apply List.eq_nil_iff_forall_not_mem.mpr
    intro slot inside
    obtain ⟨_, live, alone⟩ : slot < _ ∧ _ ∧ graph.degreeAt slot = 0 := by
      simpa [isolated] using inside
    obtain ⟨node, found⟩ := Option.isSome_iff_exists.mp live
    apply touched node.id
    rw [degree?, (sound.indexed node.id slot).mpr ⟨node, found, rfl⟩, Option.map_some, alone]
  rw [prune, none, removeAll]

/-- The nodes without a wire can go in any order, and no others. -/
theorem perm_names_prune_iff (sound : graph.Sound) :
    order.Perm graph.prune.2 ↔
      ∃ after, graph.shedAll? order = some after ∧ after.Touched := by
  constructor
  · intro shuffled
    have distinct : order.Nodup := shuffled.nodup_iff.mpr (nodup_names_prune sound)
    have alone : ∀ id ∈ order, graph.degree? id = some 0 := fun id inside =>
      (mem_names_prune sound id).mp (shuffled.mem_iff.mp inside)
    obtain ⟨after, removed⟩ := (exists_shedAll_iff sound).mpr ⟨distinct, alone⟩
    refine ⟨after, removed, ((shed_of_shedAll sound removed).touched_iff sound).mpr ?_⟩
    exact fun id isolated => shuffled.mem_iff.mpr ((mem_names_prune sound id).mpr isolated)
  · rintro ⟨after, removed, touched⟩
    obtain ⟨distinct, alone⟩ := (exists_shedAll_iff sound).mp ⟨after, removed⟩
    have all := ((shed_of_shedAll sound removed).touched_iff sound).mp touched
    rw [List.perm_ext_iff_of_nodup distinct (nodup_names_prune sound)]
    intro id
    rw [mem_names_prune sound]
    exact ⟨alone id, all id⟩

/-- Whatever the order, nodes and wires are those of the pruned graph in the end. -/
theorem nodes_of_shedAll (sound : graph.Sound) (removed : graph.shedAll? order = some after)
    (touched : after.Touched) :
    after.nodes = graph.prune.1.nodes ∧ after.wires = graph.prune.1.wires := by
  have shed := shed_of_shedAll sound removed
  have pruned := shed_prune sound
  have same := (perm_names_prune_iff sound).mpr ⟨after, removed, touched⟩
  constructor
  · simp only [shed.nodes, pruned.nodes, same.mem_iff]
  · rw [shed.wires, pruned.wires]

/-- What pruning is to do: which nodes it removes, that it leaves everything else, and that neither
another order of removal nor a second time would make a difference. -/
structure Pruned (graph after : Graph) (removed : List String) : Prop where
  isolated : removed =
    (graph.nodes.filter fun node => graph.degree? node.id = some 0).map Node.id
  once : removed.Nodup
  nodes : after.nodes = graph.nodes.filter fun node => node.id ∉ removed
  wires : after.wires = graph.wires
  degree (id : String) : after.degree? id = if id ∈ removed then none else graph.degree? id
  node (id : String) : after.node? id = if id ∈ removed then none else graph.node? id
  contains (id : String) : after.contains id = true ↔ graph.contains id = true ∧ id ∉ removed
  touched : after.Touched
  anyOrder (order : List String) :
    order.Perm removed ↔ ∃ last, graph.shedAll? order = some last ∧ last.Touched
  sameEnd (order : List String) (last : Graph) (shed : graph.shedAll? order = some last)
    (touched : last.Touched) : last.nodes = after.nodes ∧ last.wires = after.wires
  again : after.prune = (after, [])

/-- Whatever a graph has been through, pruning removes the nodes of degree zero and nothing else, as
removing them one after the other would in any order, and leaves nothing for a second time. -/
theorem prune_of_run (name : String) (operations : List Operation) :
    Pruned (run name operations) (run name operations).prune.1 (run name operations).prune.2 := by
  have sound := (represents_run name operations).sound
  have shed := shed_prune sound
  exact {
    isolated := names_prune_eq sound
    once := nodup_names_prune sound
    nodes := shed.nodes
    wires := shed.wires
    degree := shed.degree sound
    node := shed.node sound
    contains := shed.contains_iff sound
    touched := touched_prune sound
    anyOrder := fun _ => perm_names_prune_iff sound
    sameEnd := fun _ _ => nodes_of_shedAll sound
    again := prune_of_touched shed.sound (touched_prune sound) }

-- A slot that was taken again is vacated once more, and the order of removal shows in no listing.
example :
    let graph := run "graph"
      [.ensure "a", .connect ⟨"b", "b", "p"⟩, .prune, .ensure "c", .ensure "d"]
    graph.nodes.map Node.id = ["c", "b", "d"] ∧ graph.prune.2 = ["c", "d"] ∧
      (graph.shedAll? ["d", "c"]).map Graph.nodes = some graph.prune.1.nodes := by
  decide +kernel

end Pruning

end CircuitDiagram.Graph
