import CircuitDiagram.Proofs.Graph.OfCircuit
import Mathlib.Data.List.Perm.Subperm

/-!
Documents that agree have the same circuits under the same names, and circuits that agree have the
same nodes and the same groups under the same names, each group with its wires in their order. In
which order the names come does not count. Circuits that agree make the same graphs but for order.
-/

namespace CircuitDiagram

variable {α : Type}

section Options

variable {related weaker : α → α → Prop} {left right : Option α}

theorem isSome_eq_of_rel (same : Option.Rel related left right) : left.isSome = right.isSome := by
  cases same <;> rfl

theorem rel_imp (each : ∀ value other, related value other → weaker value other)
    (same : Option.Rel related left right) : Option.Rel weaker left right := by
  cases same with
  | none => exact .none
  | some values => exact .some (each _ _ values)

theorem rel_eq_iff : Option.Rel Eq left right ↔ left = right := by
  constructor
  · intro same
    cases same with
    | none => rfl
    | some values => rw [values]
  · rintro rfl
    cases left with
    | none => exact .none
    | some value => exact .some rfl

theorem equivalence_rel (equivalence : Equivalence related) :
    Equivalence (Option.Rel related) where
  refl value := by
    cases value with
    | none => exact .none
    | some value => exact .some (equivalence.refl value)
  symm same := by
    cases same with
    | none => exact .none
    | some values => exact .some (equivalence.symm values)
  trans same next := by
    cases same with
    | none => exact next
    | some values =>
        cases next with
        | some nextValues => exact .some (equivalence.trans values nextValues)

end Options

namespace Table

variable {related : α → α → Prop} {left right : Table α}

/-- The tables have the same names, and related values under each. -/
def Matches (related : α → α → Prop) (left right : Table α) : Prop :=
  ∀ name, Option.Rel related (left.get? name) (right.get? name)

theorem Matches.names (same : Matches related left right) : left.names.Perm right.names := by
  rw [List.perm_ext_iff_of_nodup left.nodup_names right.nodup_names]
  intro name
  rw [mem_names_iff, mem_names_iff, isSome_eq_of_rel (same name)]

theorem agrees_of_matches {equal : α → α → Bool}
    (same : Matches (fun value other => equal value other = true) left right) :
    left.agrees equal right = true := by
  have size : left.size = right.size := by
    have length := same.names.length_eq
    rwa [Table.names, Table.names, List.length_map, List.length_map] at length
  rw [agrees, Bool.and_eq_true, beq_iff_eq, List.all_eq_true]
  refine ⟨size, ?_⟩
  intro entry inside
  have matched := same entry.1
  rw [left.get?_eq_some_iff.mpr inside] at matched
  cases found : right.get? entry.1 with
  | none =>
      rw [found] at matched
      cases matched
  | some other =>
      rw [found] at matched
      cases matched with
      | some equals => exact equals

-- Looked up are the names on the left only; that there are as many on the right makes up for it.
theorem matches_of_agrees {equal : α → α → Bool} (same : left.agrees equal right = true) :
    Matches (fun value other => equal value other = true) left right := by
  rw [agrees, Bool.and_eq_true, beq_iff_eq, List.all_eq_true] at same
  obtain ⟨size, each⟩ := same
  have shared : ∀ name value, left.get? name = some value →
      ∃ other, right.get? name = some other ∧ equal value other = true := by
    intro name value found
    have entry := each _ (left.get?_eq_some_iff.mp found)
    split at entry
    · rename_i other there
      exact ⟨other, there, entry⟩
    · contradiction
  have covered : left.names ⊆ right.names := by
    intro name inside
    obtain ⟨value, found⟩ := Option.isSome_iff_exists.mp (left.mem_names_iff.mp inside)
    obtain ⟨other, there, -⟩ := shared name value found
    rw [right.mem_names_iff, there]
    rfl
  have names : left.names.Perm right.names := by
    have part := List.subperm_of_subset left.nodup_names covered
    apply part.perm_of_length_le
    rw [Table.names, Table.names, List.length_map, List.length_map]
    exact Nat.le_of_eq size.symm
  intro name
  cases found : left.get? name with
  | none =>
      have absent := left.get?_eq_none_iff.mp found
      rw [names.mem_iff, ← right.get?_eq_none_iff] at absent
      rw [absent]
      exact .none
  | some value =>
      obtain ⟨other, there, equals⟩ := shared name value found
      rw [there]
      exact .some equals

theorem agrees_iff_matches {equal : α → α → Bool} :
    left.agrees equal right = true ↔
      Matches (fun value other => equal value other = true) left right :=
  ⟨matches_of_agrees, agrees_of_matches⟩

theorem equivalence_matches (equivalence : Equivalence related) :
    Equivalence (Matches related) where
  refl table name := (equivalence_rel equivalence).refl (table.get? name)
  symm same name := (equivalence_rel equivalence).symm (same name)
  trans same next name := (equivalence_rel equivalence).trans (same name) (next name)

theorem entries_perm (same : ∀ name, left.get? name = right.get? name) :
    left.entries.Perm right.entries := by
  rw [List.perm_ext_iff_of_nodup left.distinct.of_map right.distinct.of_map]
  rintro ⟨name, value⟩
  rw [← get?_eq_some_iff, ← get?_eq_some_iff, same]

end Table

section Agreeing

theorem Circuit.agrees_iff {left right : Circuit} :
    left.agrees right = true ↔
      (∀ id, left.nodes.get? id = right.nodes.get? id) ∧
        ∀ group, left.groups.get? group = right.groups.get? group := by
  rw [agrees, Bool.and_eq_true, Table.agrees_iff_matches, Table.agrees_iff_matches]
  simp only [decide_eq_true_eq, Table.Matches, rel_eq_iff]

theorem Circuit.equivalence_agrees :
    Equivalence fun left right : Circuit => left.agrees right = true where
  refl circuit := agrees_iff.mpr ⟨fun _ => rfl, fun _ => rfl⟩
  symm same := by
    obtain ⟨nodes, groups⟩ := agrees_iff.mp same
    exact agrees_iff.mpr ⟨fun id => (nodes id).symm, fun group => (groups group).symm⟩
  trans same next := by
    obtain ⟨nodes, groups⟩ := agrees_iff.mp same
    obtain ⟨nextNodes, nextGroups⟩ := agrees_iff.mp next
    exact agrees_iff.mpr ⟨fun id => (nodes id).trans (nextNodes id),
      fun group => (groups group).trans (nextGroups group)⟩

theorem Document.agrees_iff {left right : Document} :
    left.agrees right = true ↔
      Table.Matches (fun circuit other => circuit.agrees other = true)
        left.circuits right.circuits :=
  Table.agrees_iff_matches

theorem Document.equivalence_agrees :
    Equivalence fun left right : Document => left.agrees right = true := by
  have circuits := Table.equivalence_matches Circuit.equivalence_agrees
  constructor
  · exact fun document => agrees_iff.mpr (circuits.refl _)
  · exact fun same => agrees_iff.mpr (circuits.symm (agrees_iff.mp same))
  · exact fun same next =>
      agrees_iff.mpr (circuits.trans (agrees_iff.mp same) (agrees_iff.mp next))

end Agreeing

/-- The same graph, whatever the order of its nodes and of its wires. -/
structure Graph.SameBut (left right : Graph) : Prop where
  nodes : left.nodes.Perm right.nodes
  degrees (id : String) : left.degree? id = right.degree? id
  wires : left.wires.Perm right.wires

namespace Graph

variable {wires others : List Wire}

theorem mentioned_perm (same : wires.Perm others) : mentioned wires = mentioned others :=
  funext fun _ => same.any_eq

theorem endCount_perm (same : wires.Perm others) (id : String) :
    endCount wires id = endCount others id := by
  rw [endCount, endCount, same.countP_eq, same.countP_eq]

theorem sameBut_of_perm {left right : Graph} (sound : left.Sound) (otherSound : right.Sound)
    (nodes : left.nodes.Perm right.nodes) (wires : left.wires.Perm right.wires) :
    SameBut left right where
  nodes := nodes
  wires := wires
  degrees id := by
    have contained : left.contains id = right.contains id := by
      rw [Bool.eq_iff_iff, contains_iff sound, contains_iff otherSound]
      simp only [nodes.mem_iff]
    rw [degree_eq sound, degree_eq otherSound, contained, endCount_perm wires]

end Graph

namespace Circuit

open CircuitDiagram.Graph

variable {left right : Circuit}

theorem wires_perm (same : ∀ group, left.groups.get? group = right.groups.get? group) :
    left.wires.Perm right.wires :=
  ((Table.entries_perm same).map Prod.snd).flatten

theorem onlyMentioned_perm (names : left.nodes.names.Perm right.nodes.names)
    (wires : left.wires.Perm right.wires) : left.onlyMentioned.Perm right.onlyMentioned := by
  have distinct (circuit : Circuit) : circuit.onlyMentioned.Nodup := nodup_eraseDups _
  rw [List.perm_ext_iff_of_nodup (distinct left) (distinct right)]
  intro id
  have ends : (ends left.wires).Perm (ends right.wires) := wires.flatMap_right _
  rw [onlyMentioned, onlyMentioned, mem_newNames, mem_newNames, ends.mem_iff, names.mem_iff]

theorem nodes_graph_perm (name : String) (same : left.agrees right = true) :
    (left.graph name).nodes.Perm (right.graph name).nodes := by
  obtain ⟨nodes, groups⟩ := agrees_iff.mp same
  have entries := Table.entries_perm nodes
  have mentioned := onlyMentioned_perm (entries.map Prod.fst) (wires_perm groups)
  rw [nodes_graph, nodes_graph]
  exact (entries.map _).append (mentioned.map _)

theorem mentioned_of_agrees (same : left.agrees right = true) :
    mentioned left.wires = mentioned right.wires :=
  mentioned_perm (wires_perm (agrees_iff.mp same).2)

theorem names_pruned_perm (name : String) (same : left.agrees right = true) :
    (left.pruned name).2.Perm (right.pruned name).2 := by
  have entries := Table.entries_perm (agrees_iff.mp same).1
  rw [names_pruned, names_pruned, mentioned_of_agrees same]
  exact (entries.map Prod.fst).filter _

theorem sound_pruned (name : String) (circuit : Circuit) : (circuit.pruned name).1.Sound :=
  (cleared_prune (grown_graph name circuit).sound).sound

theorem pruned_sameBut (name : String) (same : left.agrees right = true) :
    SameBut (left.pruned name).1 (right.pruned name).1 := by
  apply sameBut_of_perm (sound_pruned name left) (sound_pruned name right)
  · have gone := names_pruned_perm name same
    rw [nodes_pruned, nodes_pruned]
    simp only [gone.mem_iff]
    exact (nodes_graph_perm name same).filter _
  · rw [wires_pruned, wires_pruned]
    exact wires_perm (agrees_iff.mp same).2

/-- What is pruned comes in the order of the nodes, and in no other. -/
theorem names_pruned_eq (name : String) (same : left.agrees right = true)
    (ordered : left.nodes.names = right.nodes.names) :
    (left.pruned name).2 = (right.pruned name).2 := by
  rw [names_pruned, names_pruned, mentioned_of_agrees same, ordered]

end Circuit

/-- Agreeing is an equivalence: the same names, with the same nodes and groups under each. Circuits
under the same name have the same pruned graph but for order, and the same names are pruned; in the
same order, if the nodes are in the same order. -/
theorem Document.pruned_of_agrees :
    (Equivalence fun left right : Document => left.agrees right = true) ∧
    ∀ left right : Document,
      (left.agrees right = true ↔
        ∀ name, Option.Rel
          (fun circuit other : Circuit =>
            (∀ id, circuit.nodes.get? id = other.nodes.get? id) ∧
              ∀ group, circuit.groups.get? group = other.groups.get? group)
          (left.circuits.get? name) (right.circuits.get? name)) ∧
      (left.agrees right = true →
        ∀ name, Option.Rel
          (fun circuit other : Circuit =>
            (circuit.pruned name).1.SameBut (other.pruned name).1 ∧
              (circuit.pruned name).2.Perm (other.pruned name).2 ∧
              (circuit.nodes.names = other.nodes.names →
                (circuit.pruned name).2 = (other.pruned name).2))
          (left.circuits.get? name) (right.circuits.get? name)) := by
  refine ⟨equivalence_agrees, fun left right => ⟨?_, ?_⟩⟩
  · rw [agrees_iff]
    simp only [Table.Matches, Circuit.agrees_iff]
  · intro same name
    refine rel_imp ?_ (agrees_iff.mp same name)
    intro circuit other agrees
    exact ⟨Circuit.pruned_sameBut name agrees, Circuit.names_pruned_perm name agrees,
      Circuit.names_pruned_eq name agrees⟩

section Instances

/-- Two nodes without a wire, and two that are only mentioned. -/
def orderly : Circuit where
  nodes := ⟨[("a", .boundary .input), ("idle", .gate "and"), ("spare", .gate "or"),
    ("b", .boundary .output)], by decide⟩
  groups := ⟨[("first", [⟨"a", "x", "p"⟩, ⟨"a", "b", "q"⟩]), ("second", [⟨"y", "b", "r"⟩])],
    by decide⟩

def shuffled : Circuit where
  nodes := ⟨[("spare", .gate "or"), ("b", .boundary .output), ("a", .boundary .input),
    ("idle", .gate "and")], by decide⟩
  groups := ⟨[("second", [⟨"y", "b", "r"⟩]), ("first", [⟨"a", "x", "p"⟩, ⟨"a", "b", "q"⟩])],
    by decide⟩

theorem shuffled_pruned_of_agrees :
    (Document.mk ⟨[("one", orderly), ("two", shuffled)], by decide⟩).agrees
        ⟨⟨[("two", orderly), ("one", shuffled)], by decide⟩⟩ = true ∧
      (orderly.pruned "one").1.SameBut (shuffled.pruned "one").1 ∧
      (orderly.pruned "one").2.Perm (shuffled.pruned "one").2 ∧
      (orderly.pruned "one").2 = ["idle", "spare"] ∧
      (shuffled.pruned "one").2 = ["spare", "idle"] := by
  have same : (Document.mk ⟨[("one", orderly), ("two", shuffled)], by decide⟩).agrees
      ⟨⟨[("two", orderly), ("one", shuffled)], by decide⟩⟩ = true := by
    decide +kernel
  have circuits := (Document.pruned_of_agrees.2 _ _).2 same "one"
  change Option.Rel _ (some orderly) (some shuffled) at circuits
  cases circuits with
  | some values =>
      exact ⟨same, values.1, values.2.1, by decide +kernel, by decide +kernel⟩

end Instances

end CircuitDiagram
