import CircuitDiagram.Machine.Shell.Expansion
import CircuitDiagram.Machine.Shell.Tool.Files

/-!
Redirections: streams are led to files, to texts or to each other while a command runs. The first
that cannot be done stops the command, with a complaint.
-/

namespace CircuitDiagram.Shell

open Work

/-- What is wrong with a path; a lack of something has words of its own. -/
def pathProblem (lacking : String) (error : SystemError) : String :=
  if error = .notFound || error = .notDirectory then lacking else error.reason

inductive Device where
  | stream (number : Nat)
  | target (target : Target)

def device? (path : String) : Option Device :=
  match path with
  | "/dev/null" => some (.target .nothing)
  | "/dev/zero" => some (.target .zeros)
  | "/dev/full" => some (.target .full)
  | "/dev/stdin" => some (.stream inputStream)
  | "/dev/stdout" => some (.stream outputStream)
  | "/dev/stderr" => some (.stream errorStream)
  | _ =>
      let number (start : String) : Option Device :=
        if path.startsWith start then
          ((path.drop start.length).toString.toNat?).map Device.stream
        else none
      number "/dev/fd/" <|> number "/proc/self/fd/"

def shareStream (stream other : Nat) (problem : String) : Work Unit := do
  let state ← get
  match state.channel? other with
  | some (index, _) => set (state.share stream index)
  | none => refuse problem

def openDevice (stream : Nat) (path : String) (device : Device) (problem : String) : Work Unit :=
  match device with
  | .stream other => shareStream stream other (problem ++ path ++ ": No such file")
  | .target target => modify fun state => state.lead stream ⟨target, true, true⟩

def openInput (stream : Nat) (path : String) : Work Unit := do
  match device? path with
  | some device => openDevice stream path device "cannot open "
  | none =>
      let state ← get
      match state.files.locate (nameOfText path) with
      | .error error => refuse ("cannot open " ++ path ++ ": " ++ pathProblem "No such file" error)
      | .ok location =>
          let target : Target :=
            if location = FileSystem.nullDevice then .nothing
            else if state.files.isDirectoryAt location then .folder
            else .file location 0 false
          set (state.lead stream ⟨target, true, false⟩)

def openOutput (stream : Nat) (path : String) (empties appends reads : Bool) : Work Unit := do
  match device? path with
  | some device => openDevice stream path device "cannot create "
  | none =>
      let state ← get
      match state.files.fileLocation (nameOfText path) with
      | .error error =>
          refuse ("cannot create " ++ path ++ ": " ++ pathProblem "Directory nonexistent" error)
      | .ok location =>
          let files :=
            if !empties && (state.files.get? location).isSome then state.files
            else state.files.fill location []
          let target : Target :=
            if location = FileSystem.nullDevice then .nothing else .file location 0 appends
          set ((state.withFiles files).lead stream ⟨target, reads, true⟩)

def isGuarded (path : String) : Work Bool := do
  let state ← get
  if !state.hasOption 'C' || (device? path).isSome then return false
  else
    match state.files.locate (nameOfText path) with
    | .ok location => return !state.files.isDirectoryAt location
    | .error _ => return false

def shareTarget (stream : Nat) (word : String) : Work Unit := do
  if word == "-" then modify fun state => state.close stream
  else
    match word.toList with
    | [digit] =>
        if digit.isDigit then
          shareStream stream (digit.toNat - '0'.toNat) (word ++ ": Bad file descriptor")
        else notNumbered
    | _ => notNumbered
where
  notNumbered : Work Unit := do
    modify fun state => { state with line := state.lineRead }
    giveUp "Syntax error: Bad fd number"

def redirectOne (runner : Runner) : Redirection → Work Unit
  | .lead stream (.document index) _ => do
      let text ← documentText runner index
      modify fun state => state.lead stream ⟨.waiting (bytesOfText text), true, false⟩
  | .lead stream kind word => do
      let target ← expandText runner word
      match kind with
      | .input => openInput stream target
      | .append => openOutput stream target false true false
      | .update => openOutput stream target false false true
      | .share => shareTarget stream target
      | .replacement => openOutput stream target true false false
      | _ =>
          if ← isGuarded target then refuse ("cannot create " ++ target ++ ": File exists")
          else openOutput stream target true false false

def redirect (runner : Runner) : List Redirection → Work Unit
  | [] => return
  | redirection :: rest => do
      redirectOne runner redirection
      redirect runner rest

end CircuitDiagram.Shell
