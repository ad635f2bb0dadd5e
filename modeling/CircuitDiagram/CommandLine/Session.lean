import CircuitDiagram.CommandLine.Arguments
import CircuitDiagram.Render

/-!
A session of the program: its options are read, then its document, and then the DOT texts are
printed or the circuits are rendered and the paths of the artifacts listed.
-/

namespace CircuitDiagram.CommandLine

variable {σ : Type}

structure Console where
  arguments : List String
  environment : List (String × String)
  input : Except SystemError (List UInt8)

structure Ended where
  code : Nat
  output : String
  complaints : String
  deriving DecidableEq, Repr

def printed (output : String) : Ended := ⟨0, output, ""⟩

def failed (failure : Failure) : Ended := ⟨1, "", "Error: " ++ failure.message ++ "\n"⟩

def inputName : String := "<stdin>"

/-- A single dash stands for the standard input, and so does no path at all. -/
def isInputName (path : String) : Bool :=
  !Path.isAbsolute path && Path.components path == ["-"]

def decodeInput (name : String) (read : Except SystemError (List UInt8)) :
    Except Failure String :=
  match read with
  | .error error => .error (.unreadableInput name error)
  | .ok bytes =>
      match Symbol.strict? bytes with
      | some text => .ok text
      | none => .error (.unreadableInput name .notUtf8)

def sourceAt (host : Host σ) (path : String) (state : σ) : Except Failure String :=
  decodeInput path (host.readFile path state)

def readInput (host : Host σ) (console : Console) (options : Options) (state : σ) :
    Except Failure String :=
  match options.input with
  | none => decodeInput inputName console.input
  | some path =>
      if isInputName path then decodeInput inputName console.input
      else sourceAt host path state

def loadDocument (source : Except Failure String) : Except Failure Document :=
  match source with
  | .error failure => .error failure
  | .ok text =>
      match Document.parse text with
      | .error complaint => .error (.malformedInput complaint)
      | .ok document => .ok document

def Options.settings (options : Options) : Settings :=
  ⟨options.naming, ⟨options.edgeLabels⟩⟩

def Options.renderer (options : Options) (host : Host σ) : Renderer σ :=
  match options.format with
  | .dot => Render.dotFile host options.directory
  | format => Render.layout host ⟨options.program, format, options.directory, options.keepSource⟩

def dotTexts (options : Options) (document : Document) : String :=
  String.join (document.graphs.map fun graph => graph.toDot options.settings.style)

def pathLines (artifacts : List Artifact) : String :=
  String.join (artifacts.map fun artifact => artifact.path ++ "\n")

def work (host : Host σ) (console : Console) (options : Options) (state : σ) : Ended × σ :=
  match loadDocument (readInput host console options state) with
  | .error failure => (failed failure, state)
  | .ok document =>
      if options.printDot then (printed (dotTexts options document), state)
      else
        -- Paths are listed of a run that succeeds as a whole, of no other.
        let outcome := runDocument (options.renderer host) options.settings document state
        match outcome.result with
        | .error failure => (failed failure, outcome.state)
        | .ok artifacts => (printed (pathLines artifacts), outcome.state)

/-- A whole session, unless its command line is refused. -/
def session (host : Host σ) (console : Console) (state : σ) : Except Refusal (Ended × σ) :=
  match readOptions console.arguments console.environment with
  | .error refusal => .error refusal
  | .ok options => .ok (work host console options state)

end CircuitDiagram.CommandLine
