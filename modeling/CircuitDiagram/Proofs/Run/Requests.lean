import CircuitDiagram.Run
import CircuitDiagram.Proofs.Run.Stem

/-!
What a renderer is asked for in a run. The jobs are planned before it is asked for anything, and it
is asked for them in turn until it fails, so its requests are those of a first part of the plan.
-/

namespace CircuitDiagram

variable {σ : Type}

/-- The requests of a run in which nothing fails. -/
def Settings.requests (settings : Settings) (document : Document) : List Request :=
  (settings.plan document).map Job.request

section Ending

variable (renderer : Renderer σ) (settings : Settings) (document : Document) (state : σ)

-- The end of a run is told behind everything else, and nothing else comes of it.
@[simp]
theorem result_runDocument :
    (runDocument renderer settings document state).result =
      (perform renderer (settings.plan document) state).result := by
  simp only [runDocument]
  split <;> rfl

@[simp]
theorem state_runDocument :
    (runDocument renderer settings document state).state =
      (perform renderer (settings.plan document) state).state := by
  simp only [runDocument]
  split <;> rfl

end Ending

section Noting

/-- A renderer that also keeps its requests, the last one last. -/
def Renderer.noting (renderer : Renderer σ) : Renderer (σ × List Request) := fun request state =>
  let reply := renderer request state.1
  ⟨reply.answer, reply.log, (reply.state, state.2 ++ [request])⟩

/-- What a renderer is asked for in a run over a document. -/
def requestsOf (renderer : Renderer σ) (settings : Settings) (document : Document) (state : σ) :
    List Request :=
  (runDocument renderer.noting settings document (state, [])).state.2

/-- The jobs up to the first that fails. -/
def attempted (renderer : Renderer σ) : List Job → σ → List Job
  | [], _ => []
  | job :: rest, state =>
      let reply := renderer job.request state
      match reply.answer with
      | .error _ => [job]
      | .ok _ => job :: attempted renderer rest reply.state

theorem attempted_isFirstPart (renderer : Renderer σ) (jobs : List Job) (state : σ) :
    attempted renderer jobs state <+: jobs := by
  induction jobs generalizing state with
  | nil => exact List.prefix_refl []
  | cons job rest ih =>
      simp only [attempted]
      split
      · exact List.cons_prefix_cons.mpr ⟨rfl, List.nil_prefix⟩
      · exact List.cons_prefix_cons.mpr ⟨rfl, ih _⟩

theorem perform_cons_eq_ok {renderer : Renderer σ} {job : Job} {rest : List Job} {state : σ}
    {artifacts : List Artifact}
    (done : (perform renderer (job :: rest) state).result = .ok artifacts) :
    ∃ path others, (renderer job.request state).answer = .ok path ∧
      (perform renderer rest (renderer job.request state).state).result = .ok others ∧
      artifacts = job.artifact path :: others := by
  cases answered : (renderer job.request state).answer with
  | error failure =>
      simp only [perform, answered] at done
      cases done
  | ok path =>
      simp only [perform, answered] at done
      cases later : (perform renderer rest (renderer job.request state).state).result with
      | error failure =>
          simp only [later, Except.map] at done
          cases done
      | ok others =>
          simp only [later, Except.map, Except.ok.injEq] at done
          exact ⟨path, others, rfl, rfl, done.symm⟩

theorem attempted_of_ok {renderer : Renderer σ} {jobs : List Job} {state : σ}
    {artifacts : List Artifact} (done : (perform renderer jobs state).result = .ok artifacts) :
    attempted renderer jobs state = jobs := by
  induction jobs generalizing state artifacts with
  | nil => rfl
  | cons job rest ih =>
      obtain ⟨path, others, answered, later, -⟩ := perform_cons_eq_ok done
      simp only [attempted, answered, ih later]

theorem perform_noting (renderer : Renderer σ) (jobs : List Job) (state : σ)
    (noted : List Request) :
    perform renderer.noting jobs (state, noted) =
      let outcome := perform renderer jobs state
      ⟨outcome.result, outcome.log,
        (outcome.state, noted ++ (attempted renderer jobs state).map Job.request)⟩ := by
  induction jobs generalizing state noted with
  | nil => simp [perform, attempted]
  | cons job rest ih =>
      cases answered : (renderer job.request state).answer with
      | error failure => simp [perform, attempted, Renderer.noting, answered]
      | ok path =>
          have later := ih (renderer job.request state).state (noted ++ [job.request])
          simp only [perform, attempted, Renderer.noting, answered] at later ⊢
          simp [later]

-- Keeping the requests changes nothing else about a run.
theorem runDocument_noting (renderer : Renderer σ) (settings : Settings) (document : Document)
    (state : σ) (noted : List Request) :
    runDocument renderer.noting settings document (state, noted) =
      let outcome := runDocument renderer settings document state
      ⟨outcome.result, outcome.log, (outcome.state,
        noted ++ (attempted renderer (settings.plan document) state).map Job.request)⟩ := by
  simp only [runDocument, perform_noting]
  split
  · rename_i failed
    simp [failed]
  · rename_i done
    simp [done]

theorem requestsOf_eq (renderer : Renderer σ) (settings : Settings) (document : Document)
    (state : σ) :
    requestsOf renderer settings document state =
      (attempted renderer (settings.plan document) state).map Job.request := by
  rw [requestsOf, runDocument_noting]
  rfl

end Noting

section Telling

variable {α : Type} {view : Event → Option α} {renderer : Renderer σ}

-- What a renderer has nothing to say about is told of by the warnings of the jobs alone.
theorem filterMap_log_perform
    (unseen : ∀ request state, (renderer request state).log.filterMap view = [])
    (rendered : ∀ job path, view (Job.rendered job path) = none) (jobs : List Job) (state : σ) :
    (perform renderer jobs state).log.filterMap view =
      (attempted renderer jobs state).flatMap fun job => job.warnings.filterMap view := by
  induction jobs generalizing state with
  | nil => rfl
  | cons job rest ih =>
      have quiet := unseen job.request state
      cases answered : (renderer job.request state).answer with
      | error failure => simp [perform, attempted, answered, quiet]
      | ok path => simp [perform, attempted, answered, quiet, rendered, ih]

theorem filterMap_log_runDocument (complete : ∀ count, view (.runComplete count) = none)
    (renderer : Renderer σ) (settings : Settings) (document : Document) (state : σ) :
    (runDocument renderer settings document state).log.filterMap view =
      (perform renderer (settings.plan document) state).log.filterMap view := by
  simp only [runDocument]
  split
  · rfl
  · simp [complete]

end Telling

section Plan

variable (settings : Settings)

theorem jobsFrom_take (position : Nat) (taken : List String) (entries : List (String × Circuit))
    (count : Nat) :
    (settings.jobsFrom position taken entries).take count =
      settings.jobsFrom position taken (entries.take count) := by
  induction entries generalizing position taken count with
  | nil => simp [Settings.jobsFrom]
  | cons entry rest ih =>
      cases count with
      | zero => rfl
      | succ count => simp only [Settings.jobsFrom, List.take_succ_cons, ih]

/-- What does not depend on the stem of a job is known from its circuit alone. -/
theorem map_jobsFrom {α : Type} {view : Job → α} {own : String × Circuit → α}
    (same : ∀ name base stem circuit,
      view (settings.job name base stem circuit) = own (name, circuit))
    (position : Nat) (taken : List String) (entries : List (String × Circuit)) :
    (settings.jobsFrom position taken entries).map view = entries.map own := by
  induction entries generalizing position taken with
  | nil => rfl
  | cons entry rest ih => simp only [Settings.jobsFrom, List.map_cons, ih, same]

theorem circuits_jobsFrom (position : Nat) (taken : List String)
    (entries : List (String × Circuit)) :
    (settings.jobsFrom position taken entries).map (fun job => job.request.circuit) =
      entries.map Prod.fst :=
  map_jobsFrom settings (fun _ _ _ _ => rfl) position taken entries

theorem dots_jobsFrom (position : Nat) (taken : List String) (entries : List (String × Circuit)) :
    (settings.jobsFrom position taken entries).map (fun job => job.request.dot) =
      entries.map fun entry => (entry.2.pruned entry.1).1.toDot settings.style :=
  map_jobsFrom settings (fun _ _ _ _ => rfl) position taken entries

theorem length_jobsFrom (position : Nat) (taken : List String)
    (entries : List (String × Circuit)) :
    (settings.jobsFrom position taken entries).length = entries.length := by
  rw [← List.length_map Prod.fst, ← circuits_jobsFrom settings position taken, List.length_map]

end Plan

section Asked

variable (renderer : Renderer σ) (settings : Settings) (document : Document) (state : σ)

/-- Whatever a renderer answers, it is asked for the artifacts of a first part of the circuits, and
as if there were no others. -/
theorem attempted_plan :
    ∃ count, attempted renderer (settings.plan document) state =
      settings.jobsFrom 0 [] (document.circuits.entries.take count) := by
  have first := List.prefix_iff_eq_take.mp
    (attempted_isFirstPart renderer (settings.plan document) state)
  exact ⟨_, first.trans (jobsFrom_take settings 0 [] document.circuits.entries _)⟩

theorem requestsOf_plan :
    ∃ count, requestsOf renderer settings document state =
      (settings.jobsFrom 0 [] (document.circuits.entries.take count)).map Job.request := by
  obtain ⟨count, planned⟩ := attempted_plan renderer settings document state
  exact ⟨count, by rw [requestsOf_eq, planned]⟩

/-- Circuits have their turn in the order of the document. -/
theorem circuits_requestsOf :
    (requestsOf renderer settings document state).map Request.circuit <+:
      document.circuits.names := by
  obtain ⟨count, planned⟩ := requestsOf_plan renderer settings document state
  have circuits := circuits_jobsFrom settings 0 [] (document.circuits.entries.take count)
  rw [planned, List.map_map, Function.comp_def, circuits, List.map_take]
  exact List.take_prefix _ _

variable {renderer settings document state}

theorem requestsOf_of_ok {artifacts : List Artifact}
    (done : (runDocument renderer settings document state).result = .ok artifacts) :
    requestsOf renderer settings document state = settings.requests document := by
  rw [result_runDocument] at done
  rw [requestsOf_eq, attempted_of_ok done, Settings.requests]

theorem circuits_requestsOf_of_ok {artifacts : List Artifact}
    (done : (runDocument renderer settings document state).result = .ok artifacts) :
    (requestsOf renderer settings document state).map Request.circuit = document.circuits.names := by
  rw [requestsOf_of_ok done, Settings.requests, List.map_map]
  exact circuits_jobsFrom settings 0 [] document.circuits.entries

end Asked

end CircuitDiagram
