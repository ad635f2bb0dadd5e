import CircuitDiagram.Proofs.Dot.ReadBack
import CircuitDiagram.Proofs.Graph.Multigraph

/-!
The order of nodes. Nodes are listed by slot, and a slot vacated by pruning is taken again, so a
node that is inserted later may come before nodes that are there. The order of insertion is kept
just as long as that never happens; in particular it is kept where nothing is inserted behind a
pruning.
-/

namespace CircuitDiagram

/-- The nodes in the order of insertion. One that was pruned and inserted again counts from then. -/
def Multigraph.nodes (state : Multigraph) : List Node :=
  state.kinds.entries.map fun entry => ⟨entry.1, entry.2⟩

namespace Graph

variable {graph : Graph} {state : Multigraph}

def nodesBehind (graph : Graph) (slot : Nat) : List Node :=
  (graph.slots.drop (slot + 1)).filterMap fun node => node

def overtakes (graph : Graph) (id : String) : Bool :=
  !graph.contains id && graph.vacant.head?.any fun slot => !(graph.nodesBehind slot).isEmpty

/-- The operation inserts a node in front of one that is there. -/
def disorders (graph : Graph) : Operation → Bool
  | .declare id _ => graph.overtakes id
  | .ensure id => graph.overtakes id
  | .connect wire =>
      graph.overtakes wire.source || (graph.ensure wire.source).1.overtakes wire.sink
  | .prune => false

def InOrder (graph : Graph) (state : Multigraph) : Prop :=
  graph.nodes.map Node.id = state.kinds.names

section Names

theorem nodes_eq_of_names (sound : graph.Sound) :
    graph.nodes = (graph.nodes.map Node.id).filterMap graph.node? := by
  have each : ∀ node ∈ graph.nodes, (graph.node? ∘ Node.id) node = some node := by
    intro node inside
    exact (node_eq_some_iff sound).mpr ⟨inside, rfl⟩
  rw [List.filterMap_map, List.filterMap_congr each, List.filterMap_some]

/-- Names settle nodes, so it is enough to look at the names. -/
theorem nodes_eq_iff (represents : Represents graph state) :
    graph.nodes = state.nodes ↔ InOrder graph state := by
  constructor
  · intro same
    rw [InOrder, same, Multigraph.nodes, List.map_map]
    rfl
  · intro ordered
    rw [nodes_eq_of_names represents.sound, ordered, Multigraph.nodes,
      state.kinds.entries_eq_of_names, List.map_filterMap]
    apply List.filterMap_congr
    intro id _
    rw [represents.node, Option.map_map]
    rfl

end Names

section Inserting

/-- A node that takes a vacant slot parts the others into those in front of it and those behind. -/
theorem nodes_place_vacant (sound : graph.Sound) {slot : Nat} {others : List Nat}
    (vacant : graph.vacant = slot :: others) (node : Node) :
    ∃ front, graph.nodes = front ++ graph.nodesBehind slot ∧
      (graph.place node).1.nodes = front ++ node :: graph.nodesBehind slot := by
  obtain ⟨inside, unused⟩ := sound.vacant slot (by simp [vacant])
  have empty : graph.slots[slot] = none := by
    rw [nodeAt?, List.getElem?_eq_getElem inside] at unused
    exact unused
  have parts : graph.slots = graph.slots.take slot ++ none :: graph.slots.drop (slot + 1) := by
    rw [← empty, List.getElem_cons_drop, List.take_append_drop]
  refine ⟨(graph.slots.take slot).filterMap fun node => node, ?_, ?_⟩
  · rw [nodes]
    conv_lhs => rw [parts]
    rw [List.filterMap_append, List.filterMap_cons_none rfl, nodesBehind]
  · simp only [place, vacant, nodes]
    rw [List.set_eq_take_append_cons_drop, if_pos inside, List.filterMap_append]
    rfl

theorem isEmpty_nodesBehind_of_last (sound : graph.Sound) {id : String} {names : List String}
    {slot : Nat} {front : List Node} (absent : graph.contains id = false)
    (nodes : graph.nodes = front ++ graph.nodesBehind slot)
    (last : (front ++ ⟨id, none⟩ :: graph.nodesBehind slot).map Node.id = names ++ [id]) :
    graph.nodesBehind slot = [] := by
  rcases List.eq_nil_or_concat' (graph.nodesBehind slot) with empty | ⟨behind, node, same⟩
  · exact empty
  · -- The last node is one that was there, but it would have to be the new one.
    have known : node ∈ graph.nodes := by
      rw [nodes, same]
      simp
    rw [same, ← List.cons_append, ← List.append_assoc, List.map_append, List.map_singleton] at last
    have named : node.id = id := List.singleton_inj.mp (List.append_inj_right' last rfl)
    have present := (contains_iff sound).mpr ⟨node, known, named⟩
    rw [absent] at present
    contradiction

/-- A new name comes last just if no slot was vacant, or none with a node behind it. -/
theorem inOrder_added_iff (sound : graph.Sound) {id : String} (absent : graph.contains id = false)
    (names : List String) :
    (graph.added id).1.nodes.map Node.id = names ++ [id] ↔
      graph.nodes.map Node.id = names ∧ graph.overtakes id = false := by
  have added : (graph.added id).1.nodes = (graph.place ⟨id, none⟩).1.nodes := rfl
  rw [added]
  cases vacant : graph.vacant with
  | nil =>
      simp [nodes_place vacant, overtakes, vacant]
  | cons slot others =>
      obtain ⟨front, before, after⟩ := nodes_place_vacant sound vacant ⟨id, none⟩
      have settled : graph.overtakes id = false ↔ graph.nodesBehind slot = [] := by
        simp [overtakes, absent, vacant]
      rw [settled, before, after]
      constructor
      · intro last
        have empty := isEmpty_nodesBehind_of_last sound absent before last
        rw [empty] at last ⊢
        simpa using last
      · rintro ⟨same, empty⟩
        rw [empty] at same ⊢
        simpa using same

end Inserting

section Steps

theorem overtakes_of_contains {id : String} (present : graph.contains id = true) :
    graph.overtakes id = false := by
  simp [overtakes, present]

theorem inOrder_ensure_iff (represents : Represents graph state) (id : String) :
    InOrder (graph.ensure id).1 (state.ensure id) ↔
      InOrder graph state ∧ graph.overtakes id = false := by
  by_cases present : id ∈ state.kinds.names
  · have contained := (represents.contains_iff id).mpr present
    obtain ⟨slot, found⟩ := Option.isSome_iff_exists.mp contained
    rw [ensure_of_found found, Multigraph.ensure, if_pos present]
    simp [overtakes_of_contains contained]
  · have absent : graph.contains id = false := by
      rw [← Bool.not_eq_true, represents.contains_iff]
      exact present
    have unslotted : graph.slot? id = none := by simpa [contains] using absent
    rw [ensure_of_absent unslotted, Multigraph.ensure, if_neg present, InOrder, Table.names_set,
      if_neg present]
    exact inOrder_added_iff represents.sound absent state.kinds.names

theorem names_assign (sound : graph.Sound) {id : String} {slot : Nat}
    (named : graph.idAt? slot = some id) (kind : Kind) :
    (graph.assign slot kind).nodes.map Node.id = graph.nodes.map Node.id := by
  rw [nodes_assign sound named, List.map_map]
  apply List.map_congr_left
  intro node _
  simp only [Function.comp_apply]
  split <;> rfl

theorem inOrder_declare_iff (represents : Represents graph state) (id : String) (kind : Kind) :
    InOrder (graph.declare id kind).1 (state.declare id kind) ↔
      InOrder graph state ∧ graph.overtakes id = false := by
  have names : (state.declare id kind).kinds.names = (state.ensure id).kinds.names := by
    rw [Multigraph.declare, Multigraph.ensure, Table.names_set]
    split
    · rfl
    · rename_i absent
      rw [Table.names_set, if_neg absent]
  rw [← inOrder_ensure_iff represents, InOrder, InOrder, names, declare,
    names_assign (sound_ensure represents.sound id) (idAt_ensure represents.sound id)]

theorem inOrder_connect_iff (represents : Represents graph state) (wire : Wire) :
    InOrder (graph.connect wire) (state.connect wire) ↔
      InOrder graph state ∧ graph.disorders (.connect wire) = false := by
  have both := inOrder_ensure_iff (represents_ensure represents wire.source) wire.sink
  rw [inOrder_ensure_iff represents, and_assoc] at both
  rw [disorders, Bool.or_eq_false_iff, ← both]
  rfl

theorem inOrder_prune (represents : Represents graph state) (ordered : InOrder graph state) :
    InOrder graph.prune.1 state.prune := by
  rw [InOrder, nodes_prune represents.sound, represents.wires, Multigraph.prune, Table.names,
    Table.keep]
  have filtered := congrArg (List.filter (mentioned state.wires)) ordered
  rw [List.filter_map, Table.names, List.filter_map] at filtered
  exact filtered

/-- An operation that inserts keeps the order just if it does not insert in front of a node. -/
theorem inOrder_perform_iff (represents : Represents graph state) {operation : Operation}
    (inserts : operation ≠ .prune) :
    InOrder (graph.perform operation) (state.perform operation) ↔
      InOrder graph state ∧ graph.disorders operation = false := by
  cases operation with
  | declare id kind => exact inOrder_declare_iff represents id kind
  | ensure id => exact inOrder_ensure_iff represents id
  | connect wire => exact inOrder_connect_iff represents wire
  | prune => contradiction

theorem inOrder_perform (represents : Represents graph state) {operation : Operation}
    (ordered : InOrder graph state) (kept : graph.disorders operation = false) :
    InOrder (graph.perform operation) (state.perform operation) := by
  by_cases pruning : operation = .prune
  · subst pruning
    exact inOrder_prune represents ordered
  · exact (inOrder_perform_iff represents pruning).mpr ⟨ordered, kept⟩

end Steps

section Runs

theorem inOrder_run_concat (name : String) {operations : List Operation} {operation : Operation}
    (ordered : InOrder (run name operations) (Multigraph.run operations))
    (kept : (run name operations).disorders operation = false) :
    InOrder (run name (operations ++ [operation]))
      (Multigraph.run (operations ++ [operation])) := by
  rw [run_concat, Multigraph.run, List.foldl_concat]
  exact inOrder_perform (represents_run name operations) ordered kept

theorem not_disorders_of_run_concat (name : String) {operations : List Operation}
    {operation : Operation}
    (ordered : InOrder (run name (operations ++ [operation]))
      (Multigraph.run (operations ++ [operation]))) :
    (run name operations).disorders operation = false := by
  by_cases pruning : operation = .prune
  · subst pruning
    rfl
  · rw [run_concat, Multigraph.run, List.foldl_concat] at ordered
    exact ((inOrder_perform_iff (represents_run name operations) pruning).mp ordered).2

/-- The order is kept all along just if no operation inserts in front of a node. -/
theorem inOrder_along_iff (name : String) (operations : List Operation) :
    (∀ before, before <+: operations → InOrder (run name before) (Multigraph.run before)) ↔
      ∀ before operation, before ++ [operation] <+: operations →
        (run name before).disorders operation = false := by
  constructor
  · intro ordered before operation first
    exact not_disorders_of_run_concat name (ordered _ first)
  · intro kept before
    induction before using List.reverseRecOn with
    | nil =>
        intro _
        rfl
    | append_singleton before operation ih =>
        intro first
        have earlier := ih ((List.prefix_append before [operation]).trans first)
        exact inOrder_run_concat name earlier (kept before operation first)

theorem vacant_perform (full : graph.vacant = []) {operation : Operation}
    (inserts : operation ≠ .prune) : (graph.perform operation).vacant = [] := by
  cases operation with
  | declare id kind => exact vacant_declare full id kind
  | ensure id => exact vacant_ensure full id
  | connect wire => exact vacant_connect full wire
  | prune => contradiction

theorem overtakes_of_full (full : graph.vacant = []) (id : String) :
    graph.overtakes id = false := by
  simp [overtakes, full]

theorem disorders_of_full (full : graph.vacant = []) (operation : Operation) :
    graph.disorders operation = false := by
  cases operation with
  | declare id kind => exact overtakes_of_full full id
  | ensure id => exact overtakes_of_full full id
  | connect wire =>
      have ensured := vacant_ensure full wire.source
      rw [disorders, overtakes_of_full full, overtakes_of_full ensured]
      rfl
  | prune => rfl

theorem inOrder_run_of_adding (name : String) {adding : List Operation}
    (inserts : ∀ operation ∈ adding, operation ≠ .prune) :
    (run name adding).vacant = [] ∧ InOrder (run name adding) (Multigraph.run adding) := by
  induction adding using List.reverseRecOn with
  | nil => exact ⟨rfl, rfl⟩
  | append_singleton adding operation ih =>
      obtain ⟨full, ordered⟩ := ih fun other inside => inserts other (by simp [inside])
      refine ⟨?_, inOrder_run_concat name ordered (disorders_of_full full operation)⟩
      rw [run_concat]
      exact vacant_perform full (inserts operation (by simp))

theorem inOrder_run_of_pruning (name : String) {adding prunings : List Operation}
    (inserts : ∀ operation ∈ adding, operation ≠ .prune)
    (prunes : ∀ operation ∈ prunings, operation = .prune) :
    InOrder (run name (adding ++ prunings)) (Multigraph.run (adding ++ prunings)) := by
  induction prunings using List.reverseRecOn with
  | nil =>
      rw [List.append_nil]
      exact (inOrder_run_of_adding name inserts).2
  | append_singleton prunings operation ih =>
      have earlier := ih fun other inside => prunes other (by simp [inside])
      obtain rfl := prunes operation (by simp)
      rw [← List.append_assoc]
      exact inOrder_run_concat name earlier rfl

/-- A text in the order of insertion is one of the nodes in that order: a text tells its nodes. -/
theorem toDot_eq_iff (represents : Represents graph state) (style : Dot.Style) :
    graph.toDot style = Dot.write style graph.name state.nodes state.wires ↔
      graph.nodes = state.nodes := by
  constructor
  · intro same
    have shown := (Dot.write_injective same).2.1
    have ids := congrArg (List.map Prod.fst) shown
    rw [List.map_map, List.map_map] at ids
    rw [nodes_eq_iff represents]
    refine ids.trans ?_
    rw [Multigraph.nodes, List.map_map]
    rfl
  · intro same
    rw [toDot, same, represents.wires]

/-- Nodes are listed, and written, in the order of insertion all along just if no operation inserts
a node in front of one that is there. None does where nothing is inserted behind a pruning. -/
theorem insertion_order_iff (name : String) (operations : List Operation) :
    ((∀ before, before <+: operations →
        (run name before).nodes = (Multigraph.run before).nodes) ↔
      ∀ before operation, before ++ [operation] <+: operations →
        (run name before).disorders operation = false) ∧
    (∀ style, (run name operations).toDot style =
        Dot.write style (run name operations).name (Multigraph.run operations).nodes
          (Multigraph.run operations).wires ↔
      (run name operations).nodes = (Multigraph.run operations).nodes) ∧
    (∀ adding prunings, operations = adding ++ prunings →
      (∀ operation ∈ adding, operation ≠ .prune) → (∀ operation ∈ prunings, operation = .prune) →
      (run name operations).nodes = (Multigraph.run operations).nodes) := by
  refine ⟨?_, toDot_eq_iff (represents_run name operations), ?_⟩
  · rw [← inOrder_along_iff]
    simp only [fun before => nodes_eq_iff (represents_run name before)]
  · rintro adding prunings rfl inserts prunes
    exact (nodes_eq_iff (represents_run name _)).mpr (inOrder_run_of_pruning name inserts prunes)

theorem refilled_insertion_order :
    (∀ before operation,
      before ++ [operation] <+: [.connect ⟨"a", "b", "p"⟩, .ensure "z", .prune, .ensure "c"] →
        (run "order" before).disorders operation = false) ∧
    (∀ before,
      before <+: [.connect ⟨"a", "b", "p"⟩, .ensure "z", .prune, .ensure "c"] →
        (run "order" before).nodes = (Multigraph.run before).nodes) ∧
    (run "order" ([.connect ⟨"a", "b", "p"⟩, .ensure "z"] ++ [.prune])).nodes =
      (Multigraph.run ([.connect ⟨"a", "b", "p"⟩, .ensure "z"] ++ [.prune])).nodes := by
  have kept : ∀ before operation,
      before ++ [operation] <+: [.connect ⟨"a", "b", "p"⟩, .ensure "z", .prune, .ensure "c"] →
        (run "order" before).disorders operation = false := by
    rintro before operation ⟨after, same⟩
    match before with
    | [] =>
        obtain ⟨rfl, -⟩ := List.cons.inj same
        decide +kernel
    | [_] =>
        simp only [List.cons_append, List.nil_append, List.cons.injEq] at same
        obtain ⟨rfl, rfl, -⟩ := same
        decide +kernel
    | [_, _] =>
        simp only [List.cons_append, List.nil_append, List.cons.injEq] at same
        obtain ⟨rfl, rfl, rfl, -⟩ := same
        decide +kernel
    | [_, _, _] =>
        simp only [List.cons_append, List.nil_append, List.cons.injEq] at same
        obtain ⟨rfl, rfl, rfl, rfl, -⟩ := same
        decide +kernel
    | _ :: _ :: _ :: _ :: others => simp at same
  refine ⟨kept, (insertion_order_iff "order" _).1.mpr kept, ?_⟩
  exact (insertion_order_iff "order" _).2.2 _ _ rfl (by simp) (by simp)

/-- The new node takes the slot of the one that was pruned, in front of an older node. -/
theorem reused_slot_disorders :
    (run "order" [.ensure "a", .connect ⟨"b", "b", "p"⟩, .prune, .ensure "c"]).nodes =
        [⟨"c", none⟩, ⟨"b", none⟩] ∧
      (Multigraph.run [.ensure "a", .connect ⟨"b", "b", "p"⟩, .prune, .ensure "c"]).nodes =
        [⟨"b", none⟩, ⟨"c", none⟩] := by
  decide +kernel

end Runs

end Graph

end CircuitDiagram
