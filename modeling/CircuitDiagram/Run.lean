import CircuitDiagram.Document.Reading
import CircuitDiagram.Dot
import CircuitDiagram.Event
import CircuitDiagram.Failure
import CircuitDiagram.Graph.OfCircuit
import CircuitDiagram.Run.Stem

/-!
Runs over a document. The jobs of a run, one for each circuit, are planned from the document
alone; then a renderer is asked for one artifact after the other until it fails. What the
renderer makes of its requests is its own affair, and so is the state it keeps.
-/

namespace CircuitDiagram

structure Settings where
  naming : Naming
  style : Dot.Style
  deriving DecidableEq, Repr

structure Request where
  circuit : String
  stem : String
  dot : String
  deriving DecidableEq, Repr

structure Job where
  request : Request
  nodes : Nat
  wires : Nat
  pruned : List String
  warnings : List Event

structure Artifact where
  circuit : String
  path : String
  nodes : Nat
  wires : Nat
  pruned : List String
  deriving DecidableEq, Repr

structure Reply (σ : Type) where
  answer : Except Failure String
  log : List Event
  state : σ

abbrev Renderer (σ : Type) := Request → σ → Reply σ

/-- The warnings of a circuit that is rendered under `stem` where `base` was wanted. -/
def warningsOf (name base stem : String) (circuit : Circuit) : List Event :=
  (circuit.undeclared name).map (.undeclaredNode name) ++
    if stem = base then [] else [.stemRenamed name stem]

def Settings.job (settings : Settings) (name base stem : String) (circuit : Circuit) : Job :=
  let pruned := circuit.pruned name
  { request := ⟨name, stem, pruned.1.toDot settings.style⟩
    nodes := pruned.1.size
    wires := pruned.1.wireCount
    pruned := pruned.2
    warnings := warningsOf name base stem circuit }

def Settings.jobsFrom (settings : Settings) (position : Nat) (taken : List String) :
    List (String × Circuit) → List Job
  | [] => []
  | (name, circuit) :: rest =>
      let base := settings.naming.stem name position
      let stem := availableStem taken base
      -- Taken stems are kept in lower case, as they are compared.
      settings.job name base stem circuit ::
        settings.jobsFrom (position + 1) (taken ++ [Text.lowerCase stem]) rest

def Settings.plan (settings : Settings) (document : Document) : List Job :=
  settings.jobsFrom 0 [] document.circuits.entries

namespace Job

def artifact (job : Job) (path : String) : Artifact :=
  ⟨job.request.circuit, path, job.nodes, job.wires, job.pruned⟩

def rendered (job : Job) (path : String) : Event :=
  .circuitRendered job.request.circuit job.nodes job.wires job.pruned.length path

end Job

structure Outcome (σ : Type) where
  result : Except Failure (List Artifact)
  log : List Event
  state : σ

variable {σ : Type}

def perform (renderer : Renderer σ) : List Job → σ → Outcome σ
  | [], state => ⟨.ok [], [], state⟩
  | job :: rest, state =>
      let reply := renderer job.request state
      match reply.answer with
      | .error failure => ⟨.error failure, job.warnings ++ reply.log, reply.state⟩
      | .ok path =>
          let later := perform renderer rest reply.state
          { result := later.result.map (job.artifact path :: ·)
            log := job.warnings ++ reply.log ++ job.rendered path :: later.log
            state := later.state }

def runDocument (renderer : Renderer σ) (settings : Settings) (document : Document)
    (state : σ) : Outcome σ :=
  let outcome := perform renderer (settings.plan document) state
  match outcome.result with
  | .error _ => outcome
  | .ok artifacts => { outcome with log := outcome.log ++ [.runComplete artifacts.length] }

/-- Reads a document and renders it. Nothing is rendered of a malformed one. -/
def runSource (renderer : Renderer σ) (settings : Settings) (source : String) (state : σ) :
    Outcome σ :=
  match Document.parse source with
  | .error complaint => ⟨.error (.malformedInput complaint), [], state⟩
  | .ok document => runDocument renderer settings document state

end CircuitDiagram
