import CircuitDiagram.CommandLine.Choice
import CircuitDiagram.FileSystem
import CircuitDiagram.Run
import CircuitDiagram.Text.Characters

/-!
Artifacts in a directory, which is made when it is missing. An artifact is the DOT text itself, or
it is laid out by a program, which is given the format, the path to write and the DOT text on its
input; the DOT text may then be kept beside it.

Directories are texts, as all paths are: one whose name is not text has no counterpart here.
-/

namespace CircuitDiagram.Render

variable {σ : Type}

def dotExtension : String := "dot"

def dotFile (host : Host σ) (directory : String) : Renderer σ := fun request state =>
  match host.makeDirectories directory state with
  | (.error error, after) => ⟨.error (.unwritableOutput directory error), [], after⟩
  | (.ok (), made) =>
      let path := Path.join directory (Path.withExtension request.stem dotExtension)
      match host.writeFile path (encodeText request.dot) made with
      | (.error error, after) => ⟨.error (.unwritableOutput path error), [], after⟩
      | (.ok (), after) => ⟨.ok path, [], after⟩

structure LayoutSettings where
  program : String
  format : Format
  directory : String
  keepSource : Bool

def sourceExtension : String := "gv"

namespace LayoutSettings

variable (settings : LayoutSettings)

def artifactPath (stem : String) : String :=
  Path.join settings.directory (Path.withExtension stem settings.format.extension)

def sourcePath (stem : String) : String :=
  Path.join settings.directory (Path.withExtension stem sourceExtension)

def arguments (stem : String) : List String :=
  ["-T" ++ settings.format.extension, "-o", settings.artifactPath stem]

end LayoutSettings

def inputProblem (error : SystemError) : String :=
  "writing DOT to stdin failed: " ++ error.message

/-- What is told of a program that failed: its own words, and that it left its input. -/
def complaint (finished : Finished) : String :=
  let words := Text.trimmed (Symbol.lossy finished.said)
  match finished.inputError with
  | none => words
  | some error => (if words.isEmpty then "" else words ++ "; ") ++ inputProblem error

def judge (settings : LayoutSettings) (request : Request) (finished : Finished) :
    Except Failure String × List Event :=
  if finished.status.succeeded then
    (.ok (settings.artifactPath request.stem),
      match finished.inputError with
      | none => []
      | some error => [.inputLeftUnread request.circuit error.message])
  else
    (.error (.renderingFailed request.circuit finished.status.describe (complaint finished)), [])

def keepSource (host : Host σ) (settings : LayoutSettings) (request : Request) (state : σ) :
    Except SystemError Unit × σ :=
  if settings.keepSource then
    host.writeFile (settings.sourcePath request.stem) (encodeText request.dot) state
  else (.ok (), state)

/-- What comes of a program that has been started. One that cannot be waited for is reported like one
that could not be started. -/
def attend (settings : LayoutSettings) (request : Request) (process : Process σ) (state : σ) :
    Reply σ :=
  match process.await state with
  | (.error error, after) => ⟨.error (.programNotStarted settings.program error), [], after⟩
  | (.ok finished, after) =>
      let judged := judge settings request finished
      ⟨judged.1, judged.2, after⟩

def layout (host : Host σ) (settings : LayoutSettings) : Renderer σ := fun request state =>
  match host.makeDirectories settings.directory state with
  | (.error error, after) => ⟨.error (.unwritableOutput settings.directory error), [], after⟩
  | (.ok (), made) =>
      match keepSource host settings request made with
      | (.error error, after) =>
          ⟨.error (.unwritableOutput (settings.sourcePath request.stem) error), [], after⟩
      | (.ok (), kept) =>
          match host.start settings.program (settings.arguments request.stem)
              (encodeText request.dot) kept with
          | (.error error, after) =>
              ⟨.error (.programNotStarted settings.program error), [], after⟩
          | (.ok process, running) => attend settings request process running

/-- Whether a layout program is there and answers to being asked for its version. -/
def isAvailable (host : Host σ) (program : String) (state : σ) : Bool × σ :=
  match host.start program ["-V"] [] state with
  | (.error _, after) => (false, after)
  | (.ok process, running) =>
      match process.await running with
      | (.error _, after) => (false, after)
      | (.ok finished, after) => (finished.status.succeeded, after)

end CircuitDiagram.Render
