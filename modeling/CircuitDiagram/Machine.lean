import CircuitDiagram.Machine.Shell.Run

/-!
A machine to try renderers on. It is nothing but files, and its programs are the tools of the system
and scripts among the files, which a shell of its own runs. A program's output is thrown away and its
complaints are kept. Nothing else is built on this module or on what is below it.
-/

namespace CircuitDiagram.FileSystem

variable (files : FileSystem)

def ensureDirectory (location : Location) : FileSystem :=
  if (files.get? location).isSome then files else files.put location .directory

def ensureEach (files : FileSystem) : List Location → FileSystem
  | [] => files
  | location :: rest => ensureEach (files.ensureDirectory location) rest

/-- Puts an entry at a path in the working directory, with the directories around it. -/
def furnish (path : String) (entry : Entry) : FileSystem :=
  let names := Path.components path
  let around := (List.range names.length).map fun count => files.working ++ names.take count
  let ready := files.ensureEach around
  match entry with
  | .directory => ready.ensureDirectory (files.working ++ names)
  | _ => ready.put (files.working ++ names) entry

/-- What is new or changed in the working directory since `earlier`: the content of files, and
directories under a name that ends with a slash. -/
def changesSince (earlier : FileSystem) : List (String × Option (List UInt8)) :=
  files.entries.filterMap fun (location, entry) =>
    match beneath? files.working location with
    | none => none
    | some [] => none
    | some names =>
        let path := String.intercalate "/" names
        match entry, earlier.get? location with
        | .directory, some .directory => none
        | .directory, _ => some (path ++ "/", none)
        | .tool _, some (.tool _) => none
        | .tool _, _ => some (path, some [])
        | .file content _, some (.file old _) =>
            if content = old then none else some (path, some content)
        | .file content _, _ => some (path, some content)

end CircuitDiagram.FileSystem

namespace CircuitDiagram.Machine

def depth : Nat := 200000

def pipeCapacity : Nat := 65536

def longestWord : Nat := 131071

def firstProcess : Nat := 1000

def standardPath : String := "/usr/local/sbin:/usr/local/bin:/usr/sbin:/usr/bin:/sbin:/bin"

def inputChannel : Nat := 0
def errorChannel : Nat := 2

def startingState (environment : List (String × String)) (input : List UInt8)
    (files : FileSystem) : Shell.State :=
  let given := if environment.any fun entry => entry.1 == "PATH" then environment
    else ("PATH", standardPath) :: environment
  { system :=
      { files
        channels := #[⟨.waiting input, true, false⟩, ⟨.nothing, false, true⟩,
          ⟨.kept [], false, true⟩]
        signals := []
        processes := firstProcess + 1 }
    descriptors := [(Shell.inputStream, 0), (Shell.outputStream, 1), (Shell.errorStream, 2)]
    bindings := given.map fun (name, value) =>
      (Shell.textOfName name, ⟨some (Shell.textOfName value), true, false⟩)
    functions := []
    aliases := []
    programs := []
    documents := []
    name := ""
    arguments := []
    status := 0
    substituted := 0
    line := 0
    lineRead := 0
    caller := none
    options := []
    traps := []
    process := firstProcess + 1
    parents := [firstProcess]
    shell := firstProcess + 1
    testing := false
    loops := 0
    locals := none
    jobs := []
    optionPlace := 0
    endStatus := none }

def bytesIn (state : Shell.State) (channel : Nat) : List UInt8 :=
  match (state.system.channels[channel]?).map Shell.Channel.target with
  | some (.waiting bytes) => bytes
  | some (.kept chunks) => chunks.reverse.flatten
  | _ => []

def finished (status : Status) (state : Shell.State) : Finished :=
  { status
    said := bytesIn state errorChannel
    inputError :=
      if pipeCapacity < (bytesIn state inputChannel).length then some .brokenPipe else none }

def execute (words : List String) (state : Shell.State) :
    Except SystemError Status × Shell.State :=
  let runner := Shell.run depth
  let work : Shell.Work (Except SystemError Status) :=
    Shell.startProgram runner Shell.longestChain words
  let (ended, after) := (work.run state : Except Shell.Leaving (Except SystemError Status) ×
    Shell.State)
  match ended with
  | .ok result => (result, after)
  | .error (.signal number) => (.ok (.signal number false), after)
  | .error _ => (.ok (.code after.status), after)

/-- A program is run when it is started, so there is nothing left to wait for. -/
def starter (environment : List (String × String)) : Starter FileSystem :=
  fun program arguments input files =>
    let words := program :: arguments
    if words.any fun word => word.toList.contains '\x00' then (.error .nulInArgument, files)
    else if words.any fun word => decide (longestWord < word.utf8ByteSize) then
      (.error (.numbered 7), files)
    else
      match execute (words.map Shell.textOfName) (startingState environment input files) with
      | (.error error, _) => (.error error, files)
      | (.ok status, after) =>
          (.ok ⟨fun later => (.ok (finished status after), later)⟩,
            { after.files with working := files.working })

def host (environment : List (String × String)) : Host FileSystem :=
  FileSystem.host (starter environment)

end CircuitDiagram.Machine
