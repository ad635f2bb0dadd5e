import CircuitDiagram.CommandLine.Session
import CircuitDiagram.Proofs.Render.Layout
import CircuitDiagram.Proofs.Run.Requests

/-!
How a run goes, circuit by circuit, for whatever a renderer replies. If it answers every request
with a path, there is an artifact for each circuit, and it is told of each one in turn. From the
first request that it answers with a failure nothing more is asked, and nothing more is told. It is
all the same whether the jobs are planned beforehand or each circuit is given its stem in its turn.
-/

namespace CircuitDiagram

variable {σ : Type}

/-- What a renderer replies when it is asked one request after the other, whatever it answers. -/
def replies (renderer : Renderer σ) : List Request → σ → List (Reply σ)
  | [], _ => []
  | request :: rest, state =>
      let reply := renderer request state
      reply :: replies renderer rest reply.state

/-- The artifact of a circuit, once it is at a path. -/
def artifactAt (entry : String × Circuit) (path : String) : Artifact :=
  let pruned := entry.2.pruned entry.1
  ⟨entry.1, path, pruned.1.size, pruned.1.wireCount, pruned.2⟩

def Artifact.rendered (artifact : Artifact) : Event :=
  .circuitRendered artifact.circuit artifact.nodes artifact.wires artifact.pruned.length
    artifact.path

/-- What is told of the circuits from `position` on before they are rendered: their undeclared
nodes, then whether they were given the stems that they would have alone. -/
def Settings.warningsFrom (settings : Settings) :
    Nat → List (String × Circuit) → List Request → List (List Event)
  | position, (name, circuit) :: rest, request :: requests =>
      ((circuit.undeclared name).map (.undeclaredNode name) ++
        if request.stem = settings.naming.stem name position then []
        else [.stemRenamed name request.stem]) ::
        settings.warningsFrom (position + 1) rest requests
  | _, _, _ => []

def Settings.warnings (settings : Settings) (document : Document) : List (List Event) :=
  settings.warningsFrom 0 document.circuits.entries (settings.requests document)

/-- The log of circuits that were rendered: of each its warnings, what the renderer told, and at
last the artifact. -/
def toldOf : List (List Event) → List (Reply σ) → List Artifact → List Event
  | warned :: warnings, reply :: replies, artifact :: artifacts =>
      warned ++ reply.log ++ artifact.rendered :: toldOf warnings replies artifacts
  | _, _, _ => []

theorem length_replies (renderer : Renderer σ) (requests : List Request) (state : σ) :
    (replies renderer requests state).length = requests.length := by
  induction requests generalizing state with
  | nil => rfl
  | cons request rest ih => rw [replies, List.length_cons, List.length_cons, ih]

section OnePass

/-- What a run takes along from circuit to circuit. -/
structure Progress (σ : Type) where
  taken : List String
  artifacts : List Artifact
  log : List Event
  state : σ

/-- A run that is done with each circuit before it looks at the next. -/
def Settings.passFrom (settings : Settings) (renderer : Renderer σ) :
    Nat → List (String × Circuit) → Progress σ → Outcome σ
  | _, [], sofar =>
      ⟨.ok sofar.artifacts, sofar.log ++ [.runComplete sofar.artifacts.length], sofar.state⟩
  | position, (name, circuit) :: rest, sofar =>
      let pruned := circuit.pruned name
      let base := settings.naming.stem name position
      let stem := availableStem sofar.taken base
      let reply := renderer ⟨name, stem, pruned.1.toDot settings.style⟩ sofar.state
      let log := sofar.log ++ warningsOf name base stem circuit ++ reply.log
      match reply.answer with
      | .error failure => ⟨.error failure, log, reply.state⟩
      | .ok path =>
          let artifact := artifactAt (name, circuit) path
          settings.passFrom renderer (position + 1) rest
            ⟨sofar.taken ++ [Text.lowerCase stem], sofar.artifacts ++ [artifact],
              log ++ [artifact.rendered], reply.state⟩

def runInOnePass (renderer : Renderer σ) (settings : Settings) (document : Document) (state : σ) :
    Outcome σ :=
  settings.passFrom renderer 0 document.circuits.entries ⟨[], [], [], state⟩

-- A circuit in its turn comes to the job that is planned for it.
theorem passFrom_cons (renderer : Renderer σ) (settings : Settings) (position : Nat) (name : String)
    (circuit : Circuit) (rest : List (String × Circuit)) (sofar : Progress σ) :
    settings.passFrom renderer position ((name, circuit) :: rest) sofar =
      let base := settings.naming.stem name position
      let stem := availableStem sofar.taken base
      let job := settings.job name base stem circuit
      let reply := renderer job.request sofar.state
      match reply.answer with
      | .error failure =>
          ⟨.error failure, sofar.log ++ job.warnings ++ reply.log, reply.state⟩
      | .ok path =>
          settings.passFrom renderer (position + 1) rest
            ⟨sofar.taken ++ [Text.lowerCase stem], sofar.artifacts ++ [job.artifact path],
              sofar.log ++ job.warnings ++ reply.log ++ [job.rendered path], reply.state⟩ := rfl

-- By the circuits: what comes of those ahead is put behind what there is so far.
theorem passFrom_eq (renderer : Renderer σ) (settings : Settings) (position : Nat)
    (entries : List (String × Circuit)) (sofar : Progress σ) :
    settings.passFrom renderer position entries sofar =
      let ahead := perform renderer (settings.jobsFrom position sofar.taken entries) sofar.state
      match ahead.result with
      | .error failure => ⟨.error failure, sofar.log ++ ahead.log, ahead.state⟩
      | .ok others =>
          let artifacts := sofar.artifacts ++ others
          ⟨.ok artifacts, sofar.log ++ ahead.log ++ [.runComplete artifacts.length],
            ahead.state⟩ := by
  induction entries generalizing position sofar with
  | nil => simp [Settings.passFrom, Settings.jobsFrom, perform]
  | cons entry rest ih =>
      obtain ⟨name, circuit⟩ := entry
      let base := settings.naming.stem name position
      let stem := availableStem sofar.taken base
      let job := settings.job name base stem circuit
      rw [passFrom_cons, Settings.jobsFrom]
      cases answered : (renderer job.request sofar.state).answer with
      | error failure => simp [perform, job, stem, base, answered]
      | ok path =>
          cases later : (perform renderer (settings.jobsFrom (position + 1)
            (sofar.taken ++ [Text.lowerCase stem]) rest)
              (renderer job.request sofar.state).state).result <;>
            simp [perform, ih, job, stem, base, answered, later, Except.map]

theorem runInOnePass_eq (renderer : Renderer σ) (settings : Settings) (document : Document)
    (state : σ) :
    runInOnePass renderer settings document state =
      runDocument renderer settings document state := by
  rw [runInOnePass, passFrom_eq, runDocument, Settings.plan]
  generalize perform renderer (settings.jobsFrom 0 [] document.circuits.entries) state = ahead
  obtain ⟨result, log, last⟩ := ahead
  cases result with
  | error failure => rfl
  | ok artifacts => rfl

end OnePass

section Jobs

variable {renderer : Renderer σ} {state : σ} {paths : List String}

theorem perform_of_answered (jobs : List Job)
    (answered : (replies renderer (jobs.map Job.request) state).map Reply.answer =
      paths.map .ok) :
    (perform renderer jobs state).result = .ok (List.zipWith Job.artifact jobs paths) ∧
      (perform renderer jobs state).log = toldOf (jobs.map Job.warnings)
        (replies renderer (jobs.map Job.request) state) (List.zipWith Job.artifact jobs paths) := by
  induction jobs generalizing state paths with
  | nil => exact ⟨rfl, rfl⟩
  | cons job rest ih =>
      cases paths with
      | nil => simp [replies] at answered
      | cons path paths =>
          simp only [List.map_cons, replies, List.cons.injEq] at answered
          obtain ⟨result, log⟩ := ih answered.2
          simp only [perform, answered.1, result, log]
          exact ⟨rfl, rfl⟩

variable {artifacts : List Artifact}

/-- What does not depend on the path of an artifact is known from its job. -/
theorem map_artifacts_of_ok {α : Type} {view : Artifact → α} {own : Job → α}
    (same : ∀ job path, view (Job.artifact job path) = own job) {jobs : List Job}
    (done : (perform renderer jobs state).result = .ok artifacts) :
    artifacts.map view = jobs.map own := by
  induction jobs generalizing state artifacts with
  | nil =>
      cases done
      rfl
  | cons job rest ih =>
      obtain ⟨path, others, -, later, rfl⟩ := perform_cons_eq_ok done
      rw [List.map_cons, List.map_cons, same, ih later]

/-- The renderer answers a request with one path, if it answers it with any. -/
def Consistent (renderer : Renderer σ) (path : Request → String) : Prop :=
  ∀ request state given, (renderer request state).answer = .ok given → given = path request

theorem artifacts_of_consistent {path : Request → String} (consistent : Consistent renderer path)
    {jobs : List Job} (done : (perform renderer jobs state).result = .ok artifacts) :
    artifacts = jobs.map fun job => job.artifact (path job.request) := by
  induction jobs generalizing state artifacts with
  | nil =>
      cases done
      rfl
  | cons job rest ih =>
      obtain ⟨given, others, answered, later, rfl⟩ := perform_cons_eq_ok done
      rw [List.map_cons, consistent _ _ _ answered, ih later]

-- By the requests before the one that fails; each of them has been answered with a path.
theorem perform_of_failed (jobs : List Job) {done others : List (Reply σ)} {reply : Reply σ}
    {failure : Failure} (replied : replies renderer (jobs.map Job.request) state = done ++ reply :: others)
    (answered : done.map Reply.answer = paths.map .ok) (failed : reply.answer = .error failure) :
    (perform renderer jobs state).result = .error failure ∧
      (perform renderer jobs state).log =
        toldOf (jobs.map Job.warnings) done (List.zipWith Job.artifact jobs paths) ++
          (jobs.map Job.warnings)[done.length]?.getD [] ++ reply.log ∧
      attempted renderer jobs state = jobs.take (done.length + 1) := by
  induction done generalizing jobs state paths with
  | nil =>
      obtain rfl := List.map_eq_nil_iff.mp answered.symm
      cases jobs with
      | nil => simp [replies] at replied
      | cons job rest =>
          simp only [List.map_cons, replies, List.nil_append, List.cons.injEq] at replied
          obtain ⟨rfl, -⟩ := replied
          simp [perform, attempted, failed, toldOf]
  | cons first done ih =>
      cases jobs with
      | nil => simp [replies] at replied
      | cons job rest =>
          cases paths with
          | nil => simp at answered
          | cons path paths =>
              simp only [List.map_cons, replies, List.cons_append, List.cons.injEq] at replied
              simp only [List.map_cons, List.cons.injEq] at answered
              obtain ⟨rfl, replied⟩ := replied
              obtain ⟨result, log, asked⟩ := ih rest replied answered.2
              simp only [perform, attempted, answered.1, result, log, asked]
              refine ⟨rfl, ?_, rfl⟩
              simp [toldOf, Job.rendered, Artifact.rendered, Job.artifact]

end Jobs

section Renderers

variable (host : Host σ)

open CircuitDiagram.Path (withExtension)

theorem consistent_dotFile (directory : String) :
    Consistent (Render.dotFile host directory) fun request =>
      Path.join directory (withExtension request.stem Render.dotExtension) := by
  intro request state given answered
  simp only [Render.dotFile] at answered
  split at answered
  · cases answered
  · split at answered
    · cases answered
    · exact (Except.ok.inj answered).symm

theorem consistent_layout (layout : Render.LayoutSettings) :
    Consistent (Render.layout host layout) fun request => layout.artifactPath request.stem := by
  intro request state given answered
  obtain ⟨ran, ending⟩ := exists_ending host layout request state
  exact ((ending.ok_iff given).mp answered).1

/-- An artifact is in the output directory, under its stem and the extension of the format. -/
theorem consistent_renderer (options : CommandLine.Options) :
    Consistent (options.renderer host) fun request =>
      Path.join options.directory (withExtension request.stem options.format.extension) := by
  rw [CommandLine.Options.renderer]
  cases options.format with
  | dot => exact consistent_dotFile host options.directory
  | _ => exact consistent_layout host _

end Renderers

section Plan

variable (settings : Settings)

theorem artifacts_jobsFrom (position : Nat) (taken : List String)
    (entries : List (String × Circuit)) (paths : List String) :
    List.zipWith Job.artifact (settings.jobsFrom position taken entries) paths =
      List.zipWith artifactAt entries paths := by
  have each : (settings.jobsFrom position taken entries).map Job.artifact =
      entries.map artifactAt := map_jobsFrom settings (fun _ _ _ _ => rfl) position taken entries
  have applied : List.zipWith (fun make path => make path)
      ((settings.jobsFrom position taken entries).map Job.artifact) paths =
        List.zipWith (fun make path => make path) (entries.map artifactAt) paths := by
    rw [each]
  rwa [List.zipWith_map_left, List.zipWith_map_left] at applied

theorem warnings_jobsFrom (position : Nat) (taken : List String)
    (entries : List (String × Circuit)) :
    (settings.jobsFrom position taken entries).map Job.warnings =
      settings.warningsFrom position entries
        ((settings.jobsFrom position taken entries).map Job.request) := by
  induction entries generalizing position taken with
  | nil => rfl
  | cons entry rest ih =>
      obtain ⟨name, circuit⟩ := entry
      simp only [Settings.jobsFrom, List.map_cons, ih]
      rfl

theorem length_requests (document : Document) :
    (settings.requests document).length = document.size := by
  rw [Settings.requests, List.length_map, Settings.plan, length_jobsFrom, Document.size,
    Table.size]

theorem warnings_plan (document : Document) :
    (settings.plan document).map Job.warnings = settings.warnings document :=
  warnings_jobsFrom settings 0 [] document.circuits.entries

theorem artifacts_plan (document : Document) (paths : List String) :
    List.zipWith Job.artifact (settings.plan document) paths =
      List.zipWith artifactAt document.circuits.entries paths :=
  artifacts_jobsFrom settings 0 [] document.circuits.entries paths

end Plan

section Runs

variable {renderer : Renderer σ} {settings : Settings} {document : Document} {state : σ}
  {paths : List String}

theorem circuits_of_ok {artifacts : List Artifact}
    (done : (runDocument renderer settings document state).result = .ok artifacts) :
    artifacts.map Artifact.circuit = document.circuits.names := by
  rw [result_runDocument] at done
  have circuits : artifacts.map Artifact.circuit =
      (settings.plan document).map fun job => job.request.circuit :=
    map_artifacts_of_ok (fun _ _ => rfl) done
  exact circuits.trans (circuits_jobsFrom settings 0 [] document.circuits.entries)

theorem runDocument_of_answered
    (answered : (replies renderer (settings.requests document) state).map Reply.answer =
      paths.map .ok) :
    let artifacts := List.zipWith artifactAt document.circuits.entries paths
    requestsOf renderer settings document state = settings.requests document ∧
      (runDocument renderer settings document state).result = .ok artifacts ∧
      artifacts.length = document.size ∧
      (runDocument renderer settings document state).log =
        toldOf (settings.warnings document)
          (replies renderer (settings.requests document) state) artifacts ++
            [.runComplete document.size] := by
  intro artifacts
  obtain ⟨result, log⟩ := perform_of_answered (settings.plan document) answered
  rw [artifacts_plan] at result log
  have done : (runDocument renderer settings document state).result = .ok artifacts := by
    rw [← result]
    exact result_runDocument renderer settings document state
  have count : artifacts.length = document.size := by
    have asked := congrArg List.length answered
    rw [List.length_map, List.length_map, length_replies, length_requests] at asked
    rw [List.length_zipWith, ← asked]
    exact Nat.min_self _
  refine ⟨requestsOf_of_ok done, done, count, ?_⟩
  rw [← count, ← warnings_plan]
  simp only [runDocument, result, log]
  rfl

theorem runDocument_of_failed {done others : List (Reply σ)} {reply : Reply σ} {failure : Failure}
    (replied : replies renderer (settings.requests document) state = done ++ reply :: others)
    (answered : done.map Reply.answer = paths.map .ok) (failed : reply.answer = .error failure) :
    requestsOf renderer settings document state =
        (settings.requests document).take (done.length + 1) ∧
      (runDocument renderer settings document state).result = .error failure ∧
      (runDocument renderer settings document state).log =
        toldOf (settings.warnings document) done
            (List.zipWith artifactAt document.circuits.entries paths) ++
          (settings.warnings document)[done.length]?.getD [] ++ reply.log := by
  obtain ⟨result, log, asked⟩ := perform_of_failed (settings.plan document) replied answered failed
  rw [artifacts_plan, warnings_plan] at log
  refine ⟨?_, ?_, ?_⟩
  · rw [requestsOf_eq, asked, List.map_take]
    rfl
  · rw [← result]
    exact result_runDocument renderer settings document state
  · simp only [runDocument, result, log]

end Runs

/-- The requests of a run are settled by the document, and a renderer has a say only in how far the
run goes, also if each stem is given out in its turn only. Answered throughout, the run makes and
tells of one artifact for each circuit, in order. At the first failure it ends with that failure:
the circuits before are told of in full, the one that failed by its warnings alone. Of a malformed
source nothing is rendered. -/
theorem outcome_of_run (renderer : Renderer σ) (settings : Settings) (document : Document)
    (state : σ) :
    let requests := settings.requests document
    let warnings := settings.warnings document
    let artifacts := List.zipWith artifactAt document.circuits.entries
    let outcome := runDocument renderer settings document state
    requests.length = document.size ∧
      (∀ paths, (replies renderer requests state).map Reply.answer = paths.map .ok →
        requestsOf renderer settings document state = requests ∧
          outcome.result = .ok (artifacts paths) ∧
          (artifacts paths).length = document.size ∧
          outcome.log = toldOf warnings (replies renderer requests state) (artifacts paths) ++
            [.runComplete document.size]) ∧
      (∀ done reply others paths failure,
        replies renderer requests state = done ++ reply :: others →
        done.map Reply.answer = paths.map .ok → reply.answer = .error failure →
        requestsOf renderer settings document state = requests.take (done.length + 1) ∧
          outcome.result = .error failure ∧
          outcome.log = toldOf warnings done (artifacts paths) ++
            warnings[done.length]?.getD [] ++ reply.log) ∧
      (∀ source, Document.parse source = .ok document →
        runSource renderer settings source state = outcome) ∧
      (∀ source complaint, Document.parse source = .error complaint →
        runSource renderer.noting settings source (state, []) =
          ⟨.error (.malformedInput complaint), [], (state, [])⟩) ∧
      runInOnePass renderer settings document state = outcome := by
  intro requests warnings artifacts outcome
  refine ⟨length_requests settings document, ?_, ?_, ?_, ?_, ?_⟩
  · intro paths answered
    exact runDocument_of_answered answered
  · intro done reply others paths failure replied answered failed
    exact runDocument_of_failed replied answered failed
  · intro source read
    simp only [runSource, read, outcome]
  · intro source complaint malformed
    simp only [runSource, malformed]
  · exact runInOnePass_eq renderer settings document state

/-- Tells of something each time that it is asked, and fails the second time. -/
def fickle : Renderer Nat := fun request asked =>
  let log := [Event.inputLeftUnread request.circuit "Broken pipe (os error 32)"]
  if asked = 1 then ⟨.error (.renderingFailed request.circuit "exit status: 1" "boom"), log, 2⟩
  else ⟨.ok (request.stem ++ ".pdf"), log, asked + 1⟩

/-- Two circuits that come to one stem, with a node that is pruned and others not declared. -/
def wiredDocument : Document :=
  ⟨⟨[("a/b", ⟨⟨[("spare", .gate "nand")], by decide⟩, ⟨[("g", [⟨"x", "y", "p"⟩])], by decide⟩⟩),
      ("a_b", ⟨.empty, ⟨[("g", [⟨"z", "z", "q"⟩])], by decide⟩⟩)], by decide⟩⟩

theorem fickle_outcome_of_run :
    let settings : Settings := ⟨.key, ⟨false⟩⟩
    let failing := runDocument fickle settings wiredDocument 0
    let answering := runDocument fickle settings wiredDocument 2
    failing.result = .error (.renderingFailed "a_b" "exit status: 1" "boom") ∧
      failing.log = [.undeclaredNode "a/b" "x", .undeclaredNode "a/b" "y",
        .inputLeftUnread "a/b" "Broken pipe (os error 32)", .circuitRendered "a/b" 2 1 1 "a_b.pdf",
        .undeclaredNode "a_b" "z", .stemRenamed "a_b" "a_b-1",
        .inputLeftUnread "a_b" "Broken pipe (os error 32)"] ∧
      answering.result =
        .ok [⟨"a/b", "a_b.pdf", 2, 1, ["spare"]⟩, ⟨"a_b", "a_b-1.pdf", 1, 1, []⟩] := by
  intro settings failing answering
  have requests : settings.requests wiredDocument =
      [⟨"a/b", "a_b", "digraph \"a/b\" \x7b\n  \"x\";\n  \"y\";\n  \"x\" -> \"y\";\n\x7d\n"⟩,
        ⟨"a_b", "a_b-1", "digraph \"a_b\" \x7b\n  \"z\";\n  \"z\" -> \"z\";\n\x7d\n"⟩] := by
    decide +kernel
  obtain ⟨-, -, failed, -⟩ := outcome_of_run fickle settings wiredDocument 0
  obtain ⟨-, answered, -⟩ := outcome_of_run fickle settings wiredDocument 2
  rw [requests] at failed answered
  obtain ⟨-, result, log⟩ := failed [_] _ [] ["a_b.pdf"] _ rfl rfl rfl
  obtain ⟨-, artifacts, -⟩ := answered ["a_b.pdf", "a_b-1.pdf"] rfl
  refine ⟨result, ?_, ?_⟩
  · rw [log]
    decide +kernel
  · rw [artifacts]
    exact congrArg Except.ok (by decide +kernel)

end CircuitDiagram
