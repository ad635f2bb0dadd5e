import CircuitDiagram.Proofs.Graph.Multigraph
import Mathlib.Data.Finset.Card
import Mathlib.Data.List.Infix

/-!
Slots over a whole history of a graph. What a graph answers and what its prunings tell is enough to
say which slots were taken and left, and in which order. From that record alone the slot of the next
new node is known: the one left last, or one more. So there are never more slots than there were
nodes at one time, and a node keeps its slot until it is pruned.
-/

namespace CircuitDiagram.Graph

variable {graph : Graph} {id : String} {slot : Nat}

inductive SlotEvent where
  | taken (slot : Nat)
  | left (slot : Nat)
  deriving DecidableEq, Repr

namespace SlotEvent

def taken? : SlotEvent → Option Nat
  | taken slot => some slot
  | left _ => none

/-- The slots that were left and not taken again, the one left last first. -/
def openSlots (events : List SlotEvent) : List Nat :=
  events.foldl (fun slots event =>
    match event with
    | taken slot => slots.erase slot
    | left slot => slot :: slots) []

/-- How many slots there have been so far. -/
def slotCount (events : List SlotEvent) : Nat :=
  (events.filterMap taken?).toFinset.card

/-- The slot that the next new node is to have. -/
def next (events : List SlotEvent) : Nat :=
  (openSlots events).head?.getD (slotCount events)

end SlotEvent

open SlotEvent (openSlots slotCount next)

/-- The slot that a new node is given. -/
def takenFor (graph : Graph) (id : String) : List SlotEvent :=
  if graph.contains id then [] else [.taken (graph.ensure id).2]

def events (graph : Graph) : Operation → List SlotEvent
  | .declare id _ => graph.takenFor id
  | .ensure id => graph.takenFor id
  | .connect wire => graph.takenFor wire.source ++ (graph.ensure wire.source).1.takenFor wire.sink
  | .prune => (graph.prune.2.filterMap graph.slot?).map .left

/-- What operations do with slots, one after the other. -/
def eventsFrom (graph : Graph) : List Operation → List SlotEvent
  | [] => []
  | operation :: rest => graph.events operation ++ (graph.perform operation).eventsFrom rest

def history (name : String) (operations : List Operation) : List SlotEvent :=
  (empty name).eventsFrom operations

/-- The slot that an operation answers with, and the node that it is of. -/
def answer? (graph : Graph) : Operation → Option (String × Nat)
  | .declare id kind => some (id, (graph.declare id kind).2)
  | .ensure id => some (id, (graph.ensure id).2)
  | .connect _ => none
  | .prune => none

/-- The largest number of nodes that there were at one time. -/
def peak (name : String) (operations : List Operation) : Nat :=
  (operations.inits.map fun before => (run name before).size).foldl max 0

section Counting

/-- Every slot holds a node or is vacant. -/
def Accounted (graph : Graph) : Prop :=
  graph.size + graph.vacant.length = graph.slots.length

theorem size_eq_countP (graph : Graph) : graph.size = graph.slots.countP Option.isSome := by
  rw [size, nodes, List.length_filterMap_eq_countP]

theorem getElem_slots (inside : slot < graph.slots.length) :
    graph.slots[slot] = graph.nodeAt? slot := by
  rw [nodeAt?, List.getElem?_eq_getElem inside]
  rfl

theorem size_place (sound : graph.Sound) (node : Node) :
    (graph.place node).1.size = graph.size + 1 := by
  rw [size_eq_countP, size_eq_countP, place]
  cases vacant : graph.vacant with
  | nil => simp
  | cons free others =>
      obtain ⟨inside, unused⟩ := sound.vacant free (by simp [vacant])
      simp [List.countP_set inside, getElem_slots inside, unused]

theorem size_remove {node : Node} (found : graph.nodeAt? slot = some node) :
    (graph.remove slot node).size + 1 = graph.size := by
  have inside := slot_lt_of_nodeAt found
  have live : graph.slots[slot].isSome = true := by
    rw [getElem_slots inside, found, Option.isSome_some]
  have positive : 0 < graph.slots.countP Option.isSome :=
    List.countP_pos_iff.mpr ⟨_, List.getElem_mem inside, live⟩
  rw [size_eq_countP, size_eq_countP]
  simp only [remove, List.countP_set inside, live]
  simp
  omega

theorem size_assign (sound : graph.Sound) (named : graph.idAt? slot = some id) (kind : Kind) :
    (graph.assign slot kind).size = graph.size := by
  rw [size, nodes_assign sound named, List.length_map, size]

theorem slot_place (graph : Graph) (node : Node) :
    (graph.place node).2 = graph.vacant.head?.getD graph.slots.length := by
  rw [place]
  cases graph.vacant <;> rfl

theorem length_slots_place_eq (graph : Graph) (node : Node) :
    (graph.place node).1.slots.length =
      if graph.vacant = [] then graph.slots.length + 1 else graph.slots.length := by
  rw [place]
  cases graph.vacant <;> simp

end Counting

namespace SlotEvent

variable (events : List SlotEvent)

theorem openSlots_taken (slot : Nat) :
    openSlots (events ++ [taken slot]) = (openSlots events).erase slot := by
  rw [openSlots, List.foldl_concat]
  rfl

theorem openSlots_left (slots : List Nat) :
    openSlots (events ++ slots.map left) = slots.reverse ++ openSlots events := by
  induction slots generalizing events with
  | nil => simp
  | cons slot rest ih =>
      have first : openSlots (events ++ [left slot]) = slot :: openSlots events := by
        rw [openSlots, List.foldl_concat]
        rfl
      rw [List.map_cons, List.append_cons, ih, first, List.reverse_cons, List.append_assoc,
        List.singleton_append]

/-- Every slot was taken when it was the next. -/
def Foretold : Prop :=
  ∀ index slot, events[index]? = some (taken slot) → slot = next (events.take index)

variable {events}

theorem Foretold.append {more : List SlotEvent} (foretold : Foretold events)
    (rest : ∀ index slot, more[index]? = some (taken slot) →
      slot = next (events ++ more.take index)) : Foretold (events ++ more) := by
  intro index slot found
  rw [List.take_append]
  by_cases before : index < events.length
  · rw [List.getElem?_append_left before] at found
    have none : index - events.length = 0 := by omega
    rw [none, List.take_zero, List.append_nil]
    exact foretold index slot found
  · rw [List.getElem?_append_right (Nat.le_of_not_lt before)] at found
    rw [List.take_of_length_le (Nat.le_of_not_lt before)]
    exact rest _ slot found

theorem foretold_left (foretold : Foretold events) (slots : List Nat) :
    Foretold (events ++ slots.map left) := by
  apply foretold.append
  intro index slot found
  simp at found

theorem foretold_taken (foretold : Foretold events) :
    Foretold (events ++ [taken (next events)]) := by
  apply foretold.append
  intro index slot found
  obtain ⟨inside, same⟩ := List.getElem?_eq_some_iff.mp found
  obtain rfl : index = 0 := by simpa using inside
  simpa using same.symm

end SlotEvent

open SlotEvent (Foretold openSlots_taken openSlots_left foretold_left foretold_taken)

section Record

variable {events : List SlotEvent}

/-- The record of what has been done with the slots of a graph. -/
structure Recorded (graph : Graph) (events : List SlotEvent) : Prop where
  sound : graph.Sound
  accounted : graph.Accounted
  vacant : graph.vacant = openSlots events
  taken (slot : Nat) : .taken slot ∈ events ↔ slot < graph.slots.length
  foretold : Foretold events

theorem recorded_empty (name : String) : Recorded (empty name) [] where
  sound := sound_empty name
  accounted := rfl
  vacant := rfl
  taken slot := by simp [empty]
  foretold index slot found := by simp at found

-- Slots are taken from below, so the slots taken so far are all those below their number.
theorem Recorded.slotCount_eq (recorded : Recorded graph events) :
    slotCount events = graph.slots.length := by
  have slots : (events.filterMap SlotEvent.taken?).toFinset = Finset.range graph.slots.length := by
    ext slot
    rw [List.mem_toFinset, Finset.mem_range, ← recorded.taken, List.mem_filterMap]
    constructor
    · rintro ⟨event, inside, same⟩
      cases event with
      | taken other =>
          cases same
          exact inside
      | left other => cases same
    · intro inside
      exact ⟨_, inside, rfl⟩
  rw [slotCount, slots, Finset.card_range]

theorem Recorded.next_eq (recorded : Recorded graph events) (node : Node) :
    next events = (graph.place node).2 := by
  rw [slot_place, next, recorded.slotCount_eq, recorded.vacant]

theorem accounted_place (sound : graph.Sound) (accounted : graph.Accounted) (node : Node) :
    (graph.place node).1.Accounted := by
  rw [Accounted] at accounted
  rw [Accounted, size_place sound, vacant_place, length_slots_place_eq]
  cases vacant : graph.vacant with
  | nil =>
      simp only [vacant, List.length_nil, List.tail_nil, if_true] at accounted ⊢
      omega
  | cons free others =>
      simp only [vacant, List.length_cons, List.tail_cons, reduceCtorEq, if_false] at accounted ⊢
      omega

theorem lt_slots_place_iff (sound : graph.Sound) (node : Node) (slot : Nat) :
    slot < (graph.place node).1.slots.length ↔
      slot < graph.slots.length ∨ slot = (graph.place node).2 := by
  rw [length_slots_place_eq, slot_place]
  cases vacant : graph.vacant with
  | nil =>
      simp only [if_true, List.head?_nil, Option.getD_none]
      omega
  | cons free others =>
      have inside := (sound.vacant free (by simp [vacant])).1
      simp only [reduceCtorEq, if_false, List.head?_cons, Option.getD_some]
      constructor
      · exact .inl
      · rintro (before | rfl)
        · exact before
        · exact inside

theorem recorded_added (recorded : Recorded graph events) (absent : graph.slot? id = none) :
    Recorded (graph.added id).1 (events ++ [.taken (graph.added id).2]) where
  sound := sound_added recorded.sound absent
  accounted := accounted_place recorded.sound recorded.accounted ⟨id, none⟩
  vacant := by
    rw [openSlots_taken, ← recorded.vacant]
    change (graph.place ⟨id, none⟩).1.vacant = graph.vacant.erase (graph.place ⟨id, none⟩).2
    rw [vacant_place, slot_place]
    cases graph.vacant <;> simp
  taken slot := by
    rw [List.mem_append, recorded.taken, List.mem_singleton, SlotEvent.taken.injEq]
    exact (lt_slots_place_iff recorded.sound ⟨id, none⟩ slot).symm
  foretold := by
    have slot : (graph.added id).2 = next events := (recorded.next_eq ⟨id, none⟩).symm
    rw [slot]
    exact foretold_taken recorded.foretold

theorem recorded_ensure (recorded : Recorded graph events) (id : String) :
    Recorded (graph.ensure id).1 (events ++ graph.takenFor id) := by
  cases indexed : graph.slot? id with
  | some slot =>
      have present : graph.contains id = true := by simp [contains, indexed]
      rw [ensure_of_found indexed, takenFor, if_pos present, List.append_nil]
      exact recorded
  | none =>
      have absent : ¬graph.contains id = true := by simp [contains, indexed]
      rw [takenFor, if_neg absent, ensure_of_absent indexed]
      exact recorded_added recorded indexed

theorem recorded_assign (recorded : Recorded graph events) (named : graph.idAt? slot = some id)
    (kind : Kind) : Recorded (graph.assign slot kind) events where
  sound := sound_assign recorded.sound slot kind
  accounted := by
    have accounted := recorded.accounted
    rw [Accounted] at accounted ⊢
    rw [size_assign recorded.sound named]
    simpa [assign] using accounted
  vacant := recorded.vacant
  taken slot := by simpa [assign] using recorded.taken slot
  foretold := recorded.foretold

theorem recorded_connect (recorded : Recorded graph events) (wire : Wire) :
    Recorded (graph.connect wire) (events ++ graph.events (.connect wire)) := by
  have source := recorded_ensure recorded wire.source
  have sink := recorded_ensure source wire.sink
  rw [List.append_assoc] at sink
  exact ⟨sound_connect recorded.sound wire, sink.accounted, sink.vacant, sink.taken, sink.foretold⟩

end Record

section Pruning

variable {slots : List Nat} {events : List SlotEvent}

/-- Nodes leave their slots in turn, so the slot of the last one is vacant first. -/
theorem vacant_removeAll (distinct : slots.Nodup)
    (live : ∀ slot ∈ slots, (graph.nodeAt? slot).isSome) :
    (graph.removeAll slots).1.vacant = slots.reverse ++ graph.vacant := by
  induction slots generalizing graph with
  | nil => rfl
  | cons slot rest ih =>
      obtain ⟨apart, distinct⟩ := List.nodup_cons.mp distinct
      obtain ⟨here, others⟩ := List.forall_mem_cons.mp live
      obtain ⟨node, found⟩ := Option.isSome_iff_exists.mp here
      have still : ∀ other ∈ rest, ((graph.remove slot node).nodeAt? other).isSome := by
        intro other inside
        have different : other ≠ slot := by
          rintro rfl
          exact apart inside
        rw [nodeAt_remove, if_neg different]
        exact others other inside
      rw [removeAll, found]
      exact (ih distinct still).trans (by simp [remove])

theorem accounted_removeAll (accounted : graph.Accounted) (slots : List Nat) :
    (graph.removeAll slots).1.Accounted := by
  induction slots generalizing graph with
  | nil => exact accounted
  | cons slot rest ih =>
      rw [removeAll]
      split
      · exact ih accounted
      · rename_i node found
        apply ih
        have size := size_remove found
        rw [Accounted] at accounted ⊢
        simp only [remove, List.length_cons, List.length_set] at size ⊢
        omega

-- Whatever slots are given up, the index loses the names that are told and no other.
theorem slot_removeAll (graph : Graph) (slots : List Nat) {id : String}
    (kept : id ∉ (graph.removeAll slots).2) :
    (graph.removeAll slots).1.slot? id = graph.slot? id := by
  induction slots generalizing graph with
  | nil => rfl
  | cons slot rest ih =>
      rw [removeAll] at kept ⊢
      split
      · rename_i none
        rw [none] at kept
        exact ih graph kept
      · rename_i node found
        simp only [found, List.mem_cons, not_or] at kept
        rw [ih (graph.remove slot node) kept.2]
        have index := Table.get?_remove graph.index node.id id
        rw [if_neg kept.1] at index
        exact index

theorem isSome_of_isolated (inside : slot ∈ graph.isolated) : (graph.nodeAt? slot).isSome := by
  have selected := (List.mem_filter.mp inside).2
  exact (Bool.and_eq_true_iff.mp selected).1

/-- The slots that pruning tells of by the names of their nodes. -/
theorem slots_prune (sound : graph.Sound) :
    graph.prune.2.filterMap graph.slot? = graph.isolated := by
  rw [prune, names_removeAll graph _ (isolated_nodup graph), List.filterMap_filterMap]
  have each : ∀ slot ∈ graph.isolated, (graph.idAt? slot).bind graph.slot? = some slot := by
    intro slot inside
    obtain ⟨node, found⟩ := Option.isSome_iff_exists.mp (isSome_of_isolated inside)
    rw [idAt?, found, Option.map_some, Option.bind_some, sound.indexed]
    exact ⟨node, found, rfl⟩
  rw [List.filterMap_congr each, List.filterMap_some]

theorem recorded_prune (recorded : Recorded graph events) :
    Recorded graph.prune.1 (events ++ graph.events .prune) := by
  have cleared := cleared_prune recorded.sound
  have left : graph.events .prune = graph.isolated.map .left := by
    rw [Graph.events, slots_prune recorded.sound]
  rw [left]
  exact {
    sound := cleared.sound
    accounted := accounted_removeAll recorded.accounted graph.isolated
    vacant := by
      rw [openSlots_left, ← recorded.vacant]
      exact vacant_removeAll (isolated_nodup graph) fun _ => isSome_of_isolated
    taken := fun slot => by
      rw [cleared.length, ← recorded.taken]
      simp
    foretold := foretold_left recorded.foretold graph.isolated }

end Pruning

section Runs

variable {events : List SlotEvent}

theorem recorded_perform (recorded : Recorded graph events) (operation : Operation) :
    Recorded (graph.perform operation) (events ++ graph.events operation) := by
  cases operation with
  | declare id kind =>
      have ensured := recorded_ensure recorded id
      exact recorded_assign ensured (idAt_ensure recorded.sound id) kind
  | ensure id => exact recorded_ensure recorded id
  | connect wire => exact recorded_connect recorded wire
  | prune => exact recorded_prune recorded

-- By the first operation, which leaves a graph and a record for those behind it.
theorem recorded_eventsFrom (recorded : Recorded graph events) (operations : List Operation) :
    Recorded (operations.foldl perform graph) (events ++ graph.eventsFrom operations) := by
  induction operations generalizing graph events with
  | nil =>
      rw [eventsFrom, List.append_nil]
      exact recorded
  | cons operation rest ih =>
      have later := ih (recorded_perform recorded operation)
      rw [List.append_assoc] at later
      exact later

theorem recorded_run (name : String) (operations : List Operation) :
    Recorded (run name operations) (history name operations) :=
  recorded_eventsFrom (recorded_empty name) operations

end Runs

section Peak

variable {events : List SlotEvent}

theorem size_le (recorded : Recorded graph events) : graph.size ≤ graph.slots.length := by
  have accounted := recorded.accounted
  rw [Accounted] at accounted
  omega

/-- Later there are more nodes, but only as many slots as there were, or as there are nodes now. -/
structure Stretched (graph after : Graph) : Prop where
  size : graph.size ≤ after.size
  slots : after.slots.length = max graph.slots.length after.size

theorem Stretched.trans {middle after : Graph} (first : Stretched graph middle)
    (second : Stretched middle after) : Stretched graph after := by
  obtain ⟨size, slots⟩ := first
  obtain ⟨sizeThen, slotsThen⟩ := second
  constructor <;> omega

theorem stretched_ensure (recorded : Recorded graph events) (id : String) :
    Stretched graph (graph.ensure id).1 := by
  cases indexed : graph.slot? id with
  | some slot =>
      rw [ensure_of_found indexed]
      exact ⟨Nat.le_refl _, (Nat.max_eq_left (size_le recorded)).symm⟩
  | none =>
      have size : (graph.added id).1.size = graph.size + 1 := size_place recorded.sound ⟨id, none⟩
      have slots : (graph.added id).1.slots.length =
          if graph.vacant = [] then graph.slots.length + 1 else graph.slots.length :=
        length_slots_place_eq graph ⟨id, none⟩
      have before := recorded.accounted
      have after := size_le (recorded_added recorded indexed)
      rw [Accounted] at before
      rw [ensure_of_absent indexed]
      refine ⟨by omega, ?_⟩
      -- One more slot is asked for only when all the others hold nodes.
      split at slots
      · rename_i full
        rw [full, List.length_nil] at before
        omega
      · omega

theorem slots_perform (recorded : Recorded graph events) (operation : Operation) :
    (graph.perform operation).slots.length =
      max graph.slots.length (graph.perform operation).size := by
  cases operation with
  | declare id kind =>
      have ensured := (stretched_ensure recorded id).slots
      have size := size_assign (sound_ensure recorded.sound id) (idAt_ensure recorded.sound id) kind
      rw [perform, declare, size, ← ensured]
      simp [assign]
  | ensure id => exact (stretched_ensure recorded id).slots
  | connect wire =>
      have source := stretched_ensure recorded wire.source
      have sink := stretched_ensure (recorded_ensure recorded wire.source) wire.sink
      exact (source.trans sink).slots
  | prune =>
      -- There are as many slots as before, and nodes only become fewer.
      have size := size_le (recorded_perform recorded .prune)
      rw [perform, (cleared_prune recorded.sound).length] at *
      omega

theorem peak_concat (name : String) (operations : List Operation) (operation : Operation) :
    peak name (operations ++ [operation]) =
      max (peak name operations) (run name (operations ++ [operation])).size := by
  simp [peak, List.inits_append]

/-- Slots are asked for only as nodes come to be as many as never before. -/
theorem slots_run (name : String) (operations : List Operation) :
    (run name operations).slots.length = peak name operations := by
  induction operations using List.reverseRecOn with
  | nil => rfl
  | append_singleton operations operation ih =>
      rw [peak_concat, ← ih, run_concat]
      exact slots_perform (recorded_run name operations) operation

end Peak

section Stability

theorem slot_ensure_of_found (found : graph.slot? id = some slot) (other : String) :
    (graph.ensure other).1.slot? id = some slot := by
  cases indexed : graph.slot? other with
  | some _ => rwa [ensure_of_found indexed]
  | none =>
      have different : id ≠ other := by
        rintro rfl
        rw [found] at indexed
        contradiction
      rwa [ensure_of_absent indexed, slot_added, if_neg different]

theorem slot_perform_of_found (found : graph.slot? id = some slot) {operation : Operation}
    (kept : operation = .prune → id ∉ graph.prune.2) :
    (graph.perform operation).slot? id = some slot := by
  cases operation with
  | declare other kind => exact slot_ensure_of_found found other
  | ensure other => exact slot_ensure_of_found found other
  | connect wire => exact slot_ensure_of_found (slot_ensure_of_found found wire.source) wire.sink
  | prune => exact (slot_removeAll graph graph.isolated (kept rfl)).trans found

-- By the last operation of the middle. It is a pruning, which does not tell the name, or none.
theorem slot_run_of_found (name : String) {operations : List Operation}
    (found : (run name operations).slot? id = some slot) (middle : List Operation)
    (kept : ∀ part, part ++ [.prune] <+: middle → id ∉ (run name (operations ++ part)).prune.2) :
    (run name (operations ++ middle)).slot? id = some slot := by
  induction middle using List.reverseRecOn with
  | nil => rwa [List.append_nil]
  | append_singleton middle operation ih =>
      rw [← List.append_assoc, run_concat]
      apply slot_perform_of_found
      · exact ih fun part first => kept part (first.trans (List.prefix_append middle [operation]))
      · rintro rfl
        exact kept middle (List.prefix_refl _)

theorem slot_perform_of_answer {call : Operation}
    (answered : graph.answer? call = some (id, slot)) :
    (graph.perform call).slot? id = some slot := by
  cases call with
  | declare other kind =>
      cases answered
      exact slot_ensure graph id
  | ensure other =>
      cases answered
      exact slot_ensure graph id
  | connect wire => contradiction
  | prune => contradiction

theorem answer_eq_ensure {call : Operation} (answered : graph.answer? call = some (id, slot)) :
    (graph.ensure id).2 = slot := by
  cases call with
  | declare other kind =>
      cases answered
      rfl
  | ensure other =>
      cases answered
      rfl
  | connect wire => contradiction
  | prune => contradiction

end Stability

section Listing

theorem ensure_of_nodeAt (sound : graph.Sound) {node : Node}
    (found : graph.nodeAt? slot = some node) : (graph.ensure node.id).2 = slot := by
  have indexed := (sound.indexed node.id slot).mpr ⟨node, found, rfl⟩
  rw [ensure_of_found indexed]

-- Nodes are listed by slot, and the slot of a node is where its name leads.
theorem pairwise_slots (sound : graph.Sound) :
    (graph.nodes.map fun node => (graph.ensure node.id).2).Pairwise (· < ·) := by
  rw [nodes_eq_filterMap, List.map_filterMap, List.pairwise_filterMap]
  refine List.pairwise_lt_range.imp ?_
  intro left right before slot atLeft other atRight
  obtain ⟨node, found, rfl⟩ := Option.map_eq_some_iff.mp atLeft
  obtain ⟨node, foundOther, rfl⟩ := Option.map_eq_some_iff.mp atRight
  rwa [ensure_of_nodeAt sound found, ensure_of_nodeAt sound foundOther]

theorem id_of_same_slot (sound : graph.Sound) {other : String} (present : graph.contains id)
    (presentOther : graph.contains other) (same : (graph.ensure id).2 = (graph.ensure other).2) :
    id = other := by
  obtain ⟨slot, indexed⟩ := Option.isSome_iff_exists.mp present
  obtain ⟨slotOther, indexedOther⟩ := Option.isSome_iff_exists.mp presentOther
  rw [ensure_of_found indexed, ensure_of_found indexedOther] at same
  subst same
  obtain ⟨node, found, rfl⟩ := (sound.indexed id slot).mp indexed
  obtain ⟨node, foundOther, rfl⟩ := (sound.indexed other slot).mp indexedOther
  cases found.symm.trans foundOther
  rfl

theorem lt_slots_of_indexed (sound : graph.Sound) (indexed : graph.slot? id = some slot) :
    slot < graph.slots.length := by
  obtain ⟨node, found, -⟩ := (sound.indexed id slot).mp indexed
  exact slot_lt_of_nodeAt found

end Listing

/-- Whatever is done to a graph: a node keeps its slot until a pruning tells its name; nodes are
listed by slots, of which each has its own; a new node takes the slot that was left last, or one
more if none is open; and so there are no more slots than there were nodes at one time. -/
theorem slots_of_run (name : String) (operations : List Operation) :
    (∀ call middle again id slot other,
      (run name operations).answer? call = some (id, slot) →
      (∀ part, part ++ [.prune] <+: middle →
        id ∉ (run name (operations ++ call :: part)).prune.2) →
      (run name (operations ++ call :: middle)).answer? again = some (id, other) →
      other = slot) ∧
    (∀ id other, (run name operations).contains id → (run name operations).contains other →
      ((run name operations).ensure id).2 = ((run name operations).ensure other).2 →
      id = other) ∧
    ((run name operations).nodes.map fun node =>
      ((run name operations).ensure node.id).2).Pairwise (· < ·) ∧
    Foretold (history name operations) ∧
    (∀ call id slot, (run name operations).answer? call = some (id, slot) →
      (run name operations).contains id = false → slot = next (history name operations)) ∧
    (∀ call id slot, (run name operations).answer? call = some (id, slot) →
      slot < peak name (operations ++ [call])) ∧
    slotCount (history name operations) = peak name operations := by
  have recorded := recorded_run name operations
  refine ⟨?stable, ?distinct, pairwise_slots recorded.sound, recorded.foretold, ?new, ?bounded,
    recorded.slotCount_eq.trans (slots_run name operations)⟩
  case stable =>
    intro call middle again id slot other answered kept later
    have found := slot_perform_of_answer answered
    rw [← run_concat] at found
    have still := slot_run_of_found name found middle (by simpa using kept)
    rw [List.append_assoc, List.singleton_append] at still
    rw [← answer_eq_ensure later, ensure_of_found still]
  case distinct =>
    intro id other
    exact id_of_same_slot recorded.sound
  case new =>
    intro call id slot answered absent
    have unslotted : (run name operations).slot? id = none := by simpa [contains] using absent
    rw [← answer_eq_ensure answered, ensure_of_absent unslotted]
    exact (recorded.next_eq ⟨id, none⟩).symm
  case bounded =>
    intro call id slot answered
    have indexed := slot_perform_of_answer answered
    have sound := (recorded_perform recorded call).sound
    rw [← slots_run, run_concat]
    exact lt_slots_of_indexed sound indexed

-- Slots 0 and 2 are left, in this order. A new node takes slot 2, the next one slot 0, and the node
-- with the wire has slot 1 all along.
theorem slots_of_run_pruned :
    let operations := [.ensure "a", .connect ⟨"b", "b", "p"⟩, .ensure "c", .prune, .ensure "d"]
    let later := [.ensure "e", .prune]
    history "graph" operations =
      [.taken 0, .taken 1, .taken 2, .left 0, .left 2, .taken 2] ∧
    0 = next (history "graph" operations) ∧
    ((run "graph" operations).answer? (.ensure "b") = some ("b", 1) ∧
      ∀ other, (run "graph" (operations ++ .ensure "b" :: later)).answer? (.ensure "b") =
        some ("b", other) → other = 1) ∧
    0 < peak "graph" (operations ++ [.ensure "e"]) := by
  intro operations later
  obtain ⟨stable, -, -, -, new, bounded, -⟩ := slots_of_run "graph" operations
  have answered : (run "graph" operations).answer? (.ensure "e") = some ("e", 0) := by
    decide +kernel
  have found : (run "graph" operations).answer? (.ensure "b") = some ("b", 1) := by
    decide +kernel
  have kept : ∀ part, part ++ [.prune] <+: later →
      "b" ∉ (run "graph" (operations ++ .ensure "b" :: part)).prune.2 := by
    intro part first
    obtain rfl : part = [.ensure "e"] := by
      rcases part with _ | ⟨event, _ | ⟨other, rest⟩⟩ <;> simp_all [later]
    decide +kernel
  refine ⟨by decide +kernel, ?_, ⟨found, ?_⟩, bounded (.ensure "e") "e" 0 answered⟩
  · exact new (.ensure "e") "e" 0 answered (by decide +kernel)
  · intro other
    exact stable (.ensure "b") later (.ensure "b") "b" 1 other found kept

end CircuitDiagram.Graph
