import CircuitDiagram.CommandLine.Effect
import CircuitDiagram.Proofs.Render.Layout
import CircuitDiagram.Proofs.Run.Requests

/-!
The stems of a whole run. What is taken when a circuit has its turn are the stems of the circuits
before it, letter case dropped, so each circuit is allotted its stem behind theirs; and what is told
of renamings is told of the circuits that are not given the stem they would have alone.
-/

namespace CircuitDiagram

open CommandLine (notingHost)
open Text (lowerCase isUncapital lowerCase_of_isUncapital)

variable {σ : Type}

/-- Every request has the stem that is allotted behind those of the requests before it. -/
def Allocated (naming : Naming) (requests : List Request) : Prop :=
  ∀ index request, requests[index]? = some request →
    Allotted ((requests.take index).map Request.stem) (naming.stem request.circuit index)
      request.stem

/-- The circuits from `position` on that are not given the stem they would have alone, and the stems
they are given. -/
def renamedFrom (naming : Naming) (position : Nat) (requests : List Request) :
    List (String × String) :=
  (requests.zipIdx position).filterMap fun (request, index) =>
    if request.stem = naming.stem request.circuit index then none
    else some (request.circuit, request.stem)

/-- What an event tells of a renaming. -/
def Event.rename? : Event → Option (String × String)
  | .stemRenamed circuit stem => some (circuit, stem)
  | _ => none

/-- A renderer that tells of no renamings itself. -/
def Discreet (renderer : Renderer σ) : Prop :=
  ∀ request state, (renderer request state).log.filterMap Event.rename? = []

section Stems

theorem allotted_jobsFrom (settings : Settings) (earlier : List String) {position : Nat}
    {entries : List (String × Circuit)} {index : Nat} {job : Job}
    (found : (settings.jobsFrom position (earlier.map lowerCase) entries)[index]? = some job) :
    Allotted
      (earlier ++ ((settings.jobsFrom position (earlier.map lowerCase) entries).take index).map
        fun job => job.request.stem)
      (settings.naming.stem job.request.circuit (position + index)) job.request.stem := by
  induction entries generalizing position earlier index with
  | nil => simp [Settings.jobsFrom] at found
  | cons entry rest ih =>
      obtain ⟨name, circuit⟩ := entry
      cases index with
      | zero =>
          simp only [Settings.jobsFrom, List.getElem?_cons_zero, Option.some.injEq] at found
          subst found
          simpa [Settings.job] using
            allotted_availableStem earlier (settings.naming.stem name position)
      | succ index =>
          -- One more stem has been given, so one more is taken.
          let stem := availableStem (earlier.map lowerCase) (settings.naming.stem name position)
          have taken : earlier.map lowerCase ++ [lowerCase stem] =
              (earlier ++ [stem]).map lowerCase := by simp
          simp only [Settings.jobsFrom, List.getElem?_cons_succ] at found ⊢
          rw [taken] at found ⊢
          have later := ih (earlier ++ [stem]) found
          rw [List.append_assoc, Nat.add_right_comm] at later
          exact later

theorem allocated_jobsFrom (settings : Settings) (entries : List (String × Circuit)) :
    Allocated settings.naming ((settings.jobsFrom 0 [] entries).map Job.request) := by
  intro index request found
  rw [List.getElem?_map, Option.map_eq_some_iff] at found
  obtain ⟨job, found, rfl⟩ := found
  have allotted := allotted_jobsFrom settings [] found
  simpa [← List.map_take, Function.comp_def] using allotted

-- Of two requests the later one has been given a stem that differs from the earlier one's.
theorem Allocated.nodup {naming : Naming} {requests : List Request}
    (allocated : Allocated naming requests) :
    ((requests.map Request.stem).map lowerCase).Nodup := by
  rw [List.map_map, List.nodup_iff_pairwise_ne, List.pairwise_map, List.pairwise_iff_getElem]
  intro first second inFirst inSecond before same
  have allotted := allocated second _ (List.getElem?_eq_getElem inSecond)
  apply allotted.free requests[first].stem _ same.symm
  apply List.mem_map_of_mem
  exact List.mem_take_iff_getElem.mpr ⟨first, by omega, rfl⟩

/-- Numerals of later positions differ from those that are taken, so none is ever renamed. -/
theorem stems_jobsFrom_position (settings : Settings) (byPosition : settings.naming = .position)
    (position : Nat) (taken : List String) (entries : List (String × Circuit))
    (free : ∀ number, position ≤ number → toString number ∉ taken) :
    (settings.jobsFrom position taken entries).map (fun job => job.request.stem) =
      (List.range' position entries.length).map toString := by
  induction entries generalizing position taken with
  | nil => rfl
  | cons entry rest ih =>
      obtain ⟨name, circuit⟩ := entry
      have lowered : lowerCase (toString position) = toString position :=
        lowerCase_of_isUncapital (isUncapital_toString position)
      have unchanged : availableStem taken (toString position) = toString position := by
        rw [availableStem, lowered, if_neg (free position (Nat.le_refl position))]
      have later := ih (position + 1) (taken ++ [toString position]) fun number above => by
        rw [List.mem_append, List.mem_singleton]
        rintro (known | same)
        · exact free number (Nat.le_of_succ_le above) known
        · have := toString_injective same
          omega
      simp only [Settings.jobsFrom, Settings.job, List.map_cons, List.length_cons,
        List.range'_succ, byPosition, Naming.stem, unchanged, lowered, later]

variable (renderer : Renderer σ) (settings : Settings) (document : Document) (state : σ)

theorem allocated_requestsOf :
    Allocated settings.naming (requestsOf renderer settings document state) := by
  obtain ⟨count, planned⟩ := requestsOf_plan renderer settings document state
  rw [planned]
  exact allocated_jobsFrom settings _

theorem stems_requestsOf_position (byPosition : settings.naming = .position) :
    (requestsOf renderer settings document state).map Request.stem =
      (List.range (requestsOf renderer settings document state).length).map toString := by
  obtain ⟨count, planned⟩ := requestsOf_plan renderer settings document state
  have numerals := stems_jobsFrom_position settings byPosition 0 []
    (document.circuits.entries.take count) fun _ _ => List.not_mem_nil
  rw [planned, List.length_map, length_jobsFrom, List.range_eq_range', ← numerals, List.map_map]
  rfl

end Stems

section Renamings

theorem renamedFrom_eq_nil {naming : Naming} {requests : List Request}
    (kept : ∀ index request, requests[index]? = some request →
      request.stem = naming.stem request.circuit index) :
    renamedFrom naming 0 requests = [] := by
  rw [renamedFrom, List.filterMap_eq_nil_iff]
  rintro ⟨request, index⟩ inside
  rw [List.mem_zipIdx_iff_getElem?] at inside
  exact if_pos (kept index request inside)

theorem renames_warningsOf (name base stem : String) (circuit : Circuit) :
    (warningsOf name base stem circuit).filterMap Event.rename? =
      if stem = base then [] else [(name, stem)] := by
  have others : ((circuit.undeclared name).map (Event.undeclaredNode name)).filterMap
      Event.rename? = [] := by
    rw [List.filterMap_eq_nil_iff]
    intro event inside
    obtain ⟨node, -, rfl⟩ := List.mem_map.mp inside
    rfl
  rw [warningsOf, List.filterMap_append, others, List.nil_append]
  split <;> rfl

theorem renames_jobsFrom (settings : Settings) (position : Nat) (taken : List String)
    (entries : List (String × Circuit)) :
    ((settings.jobsFrom position taken entries).flatMap fun job =>
        job.warnings.filterMap Event.rename?) =
      renamedFrom settings.naming position
        ((settings.jobsFrom position taken entries).map Job.request) := by
  induction entries generalizing position taken with
  | nil => rfl
  | cons entry rest ih =>
      obtain ⟨name, circuit⟩ := entry
      simp only [Settings.jobsFrom, List.flatMap_cons, List.map_cons, ih]
      simp only [renamedFrom, Settings.job, renames_warningsOf, List.zipIdx_cons]
      split <;> simp [*]

theorem renames_perform {renderer : Renderer σ} (discreet : Discreet renderer) (jobs : List Job)
    (state : σ) :
    (perform renderer jobs state).log.filterMap Event.rename? =
      (attempted renderer jobs state).flatMap fun job =>
        job.warnings.filterMap Event.rename? :=
  filterMap_log_perform discreet (fun _ _ => rfl) jobs state

theorem renames_runDocument (renderer : Renderer σ) (settings : Settings) (document : Document)
    (state : σ) :
    (runDocument renderer settings document state).log.filterMap Event.rename? =
      (perform renderer (settings.plan document) state).log.filterMap Event.rename? :=
  filterMap_log_runDocument (fun _ => rfl) renderer settings document state

end Renamings

section Renderers

/-- A renderer that has nothing to tell but that its program left its input unread. -/
def Reserved (renderer : Renderer σ) : Prop :=
  ∀ request state, ∀ event ∈ (renderer request state).log,
    ∃ error, event = .inputLeftUnread request.circuit error

theorem Reserved.unseen {α : Type} {view : Event → Option α} {renderer : Renderer σ}
    (reserved : Reserved renderer)
    (unread : ∀ circuit error, view (.inputLeftUnread circuit error) = none)
    (request : Request) (state : σ) : (renderer request state).log.filterMap view = [] := by
  rw [List.filterMap_eq_nil_iff]
  intro event told
  obtain ⟨error, rfl⟩ := reserved request state event told
  exact unread request.circuit error

variable (host : Host σ)

theorem reserved_dotFile (directory : String) : Reserved (Render.dotFile host directory) := by
  intro request state
  have silent : (Render.dotFile host directory request state).log = [] := by
    simp only [Render.dotFile]
    split
    · rfl
    · split <;> rfl
  rw [silent]
  exact List.forall_mem_nil _

theorem reserved_layout (settings : Render.LayoutSettings) :
    Reserved (Render.layout host settings) := by
  intro request state event told
  obtain ⟨ran, ending⟩ := exists_ending host settings request state
  exact ending.unread_of_mem_log told

theorem reserved_renderer (options : CommandLine.Options) : Reserved (options.renderer host) := by
  simp only [CommandLine.Options.renderer]
  split
  · exact reserved_dotFile host options.directory
  · exact reserved_layout host _

theorem discreet_dotFile (directory : String) : Discreet (Render.dotFile host directory) :=
  (reserved_dotFile host directory).unseen fun _ _ => rfl

theorem discreet_renderer (options : CommandLine.Options) : Discreet (options.renderer host) :=
  (reserved_renderer host options).unseen fun _ _ => rfl

end Renderers

/-- Over a whole run the stems stay apart, letter case dropped; each is the least that can be had
for its circuit; and what is told is which circuits are not given the stem they would have alone.
Positions are never renamed. -/
theorem stems_of_run (renderer : Renderer σ) (settings : Settings) (document : Document)
    (state : σ) :
    let outcome := runDocument renderer settings document state
    let requests := requestsOf renderer settings document state
    let stems := requests.map Request.stem
    requests.map Request.circuit <+: document.circuits.names ∧
      (∀ artifacts, outcome.result = .ok artifacts →
        requests.map Request.circuit = document.circuits.names) ∧
      (stems.map lowerCase).Nodup ∧
      stems.Nodup ∧
      Allocated settings.naming requests ∧
      (Discreet renderer →
        outcome.log.filterMap Event.rename? = renamedFrom settings.naming 0 requests) ∧
      (settings.naming = .position →
        stems = (List.range requests.length).map toString ∧
          renamedFrom settings.naming 0 requests = []) := by
  intro outcome requests stems
  have allocated := allocated_requestsOf renderer settings document state
  have apart := allocated.nodup
  refine ⟨circuits_requestsOf renderer settings document state, ?_, apart, apart.of_map _,
    allocated, ?_, ?_⟩
  · exact fun _ => circuits_requestsOf_of_ok
  · intro discreet
    obtain ⟨count, planned⟩ := attempted_plan renderer settings document state
    have asked : requests = _ := requestsOf_eq renderer settings document state
    rw [renames_runDocument, renames_perform discreet, asked, planned, renames_jobsFrom]
  · intro byPosition
    have numerals := stems_requestsOf_position renderer settings document state byPosition
    refine ⟨numerals, renamedFrom_eq_nil fun index request found => ?_⟩
    have below : index < requests.length := (List.getElem?_eq_some_iff.mp found).1
    have given : stems[index]? = some request.stem := by
      rw [List.getElem?_map, found, Option.map_some]
    rw [show stems = _ from numerals, List.getElem?_map, List.getElem?_range below,
      Option.map_some, Option.some.injEq] at given
    rw [byPosition, ← given, Naming.stem]

/-- Circuits without nodes whose names come to one stem, or to one that a number was put behind. -/
def crowdedDocument : Document :=
  ⟨⟨["a/b", "a_b-1", "A_B", "a\\b"].map fun name => (name, ⟨.empty, .empty⟩), by decide⟩⟩

theorem crowded_stems_of_run :
    let renderer := Render.dotFile (notingHost (.ok [])) "out"
    let settings : Settings := ⟨.key, ⟨true⟩⟩
    (requestsOf renderer settings crowdedDocument []).map Request.stem =
        ["a_b", "a_b-1", "A_B-2", "a_b-3"] ∧
      (runDocument renderer settings crowdedDocument []).log.filterMap Event.rename? =
        [("A_B", "A_B-2"), ("a\\b", "a_b-3")] := by
  intro renderer settings
  obtain ⟨-, -, -, -, -, told, -⟩ := stems_of_run renderer settings crowdedDocument []
  refine ⟨by decide +kernel, ?_⟩
  rw [told (discreet_dotFile _ "out")]
  decide +kernel

end CircuitDiagram
