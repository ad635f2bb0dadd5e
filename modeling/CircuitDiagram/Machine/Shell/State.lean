import CircuitDiagram.Host
import CircuitDiagram.Machine.Shell.Octets
import CircuitDiagram.Machine.Shell.Reading.Cursor

/-!
What a shell works on. Files, open channels and signals on their way are shared by all processes;
variables, options, descriptors and the like belong to one. Work on a state gives a value, or
leaves the command, the loop, the function or the shell that it is part of.
-/

namespace CircuitDiagram.Shell

inductive Target where
  | nothing
  | zeros
  | full
  | folder
  | file (location : Location) (position : Nat) (appends : Bool)
  | waiting (bytes : List UInt8)
  | kept (chunks : List (List UInt8))

structure Channel where
  target : Target
  readable : Bool
  writable : Bool

instance : Inhabited Channel := ⟨⟨.nothing, false, false⟩⟩

structure System where
  files : FileSystem
  channels : Array Channel
  signals : List (Nat × Nat)
  processes : Nat

structure Variable where
  value : Option String
  exported : Bool
  readOnly : Bool
  deriving DecidableEq, Repr

structure Function where
  line : Nat
  body : Command

structure State where
  system : System
  descriptors : List (Nat × Nat)
  bindings : List (String × Variable)
  functions : List (String × Function)
  aliases : List (String × String)
  programs : List (String × String)
  documents : List (Nat × Word)
  name : String
  arguments : List String
  status : Nat
  /-- The status of the output that was put into the command that runs, or zero. -/
  substituted : Nat
  line : Nat
  lineRead : Nat
  caller : Option String
  options : List Char
  /-- What is done about signals; zero stands for the end, and nothing for doing nothing. -/
  traps : List (Nat × String)
  process : Nat
  parents : List Nat
  shell : Nat
  testing : Bool
  loops : Nat
  locals : Option (List (String × Option Variable))
  /-- Processes that were started in the background, with their status, the last first. -/
  jobs : List (Nat × Nat)
  optionPlace : Nat
  /-- The status that the shell ends with, while it does what is to be done at its end. -/
  endStatus : Option Nat

inductive Leaving where
  | exit (status : Nat)
  | refused (status : Nat)
  | unprinted
  | signal (number : Nat)
  | outOf (loops : Nat)
  | nextRound (loops : Nat)
  | returned (status : Nat)
  deriving DecidableEq, Repr

abbrev Work := ExceptT Leaving (StateM State)

abbrev Runner := Command → Work Unit

def inputStream : Nat := 0
def outputStream : Nat := 1
def errorStream : Nat := 2

namespace State

variable (state : State)

def files : FileSystem :=
  state.system.files

def withFiles (files : FileSystem) : State :=
  { state with system := { state.system with files } }

def hasOption (option : Char) : Bool :=
  state.options.contains option

def binding? (name : String) : Option Variable :=
  state.bindings.lookup name

def value? (name : String) : Option String :=
  (state.binding? name).bind Variable.value

/-- The state behind a change of a variable: with another path, programs are searched anew. -/
def searchingAnew (name : String) : State :=
  if name == "PATH" then { state with programs := [] } else state

def putVariable (name : String) (changed : Variable) : State :=
  { state.searchingAnew name with
    bindings := (name, changed) :: state.bindings.filter fun entry => entry.1 != name }

def dropVariable (name : String) : State :=
  { state.searchingAnew name with
    bindings := state.bindings.filter fun entry => entry.1 != name }

def separators : List Char :=
  ((state.value? "IFS").getD " \t\n").toList

def environment : List (String × String) :=
  state.bindings.filterMap fun (name, found) =>
    if found.exported then found.value.map fun value => (name, value) else none

def channel? (stream : Nat) : Option (Nat × Channel) :=
  (state.descriptors.lookup stream).bind fun index =>
    (state.system.channels[index]?).map fun channel => (index, channel)

def putChannel (index : Nat) (channel : Channel) : State :=
  { state with
    system :=
      { state.system with channels := state.system.channels.setIfInBounds index channel } }

def lead (stream : Nat) (channel : Channel) : State :=
  { state with
    system := { state.system with channels := state.system.channels.push channel }
    descriptors := (stream, state.system.channels.size) ::
      state.descriptors.filter fun entry => entry.1 != stream }

def close (stream : Nat) : State :=
  { state with descriptors := state.descriptors.filter fun entry => entry.1 != stream }

def share (stream : Nat) (index : Nat) : State :=
  { state with
    descriptors := (stream, index) ::
      state.descriptors.filter fun entry => entry.1 != stream }

def trap? (signal : Nat) : Option String :=
  state.traps.lookup signal

/-- The state of a process that goes its own way: it ignores what its parent ignores. -/
def forked : State :=
  let number := state.system.processes + 1
  { state with
    system := { state.system with processes := number }
    process := number
    parents := state.process :: state.parents
    endStatus := none
    traps := state.traps.filter fun entry => entry.2.isEmpty
    jobs := [] }

def rejoined (before : State) : State :=
  { before with
    system :=
      { state.system with
        files := { state.system.files with working := before.system.files.working } } }

end State

def overwrite (content bytes : List UInt8) (position : Nat) : List UInt8 :=
  if position = content.length then content ++ bytes
  else
    content.take position ++ List.replicate (position - content.length) 0 ++ bytes ++
      content.drop (position + bytes.length)

namespace Work

variable {α : Type}

def setStatus (status : Nat) : Work Unit :=
  modify fun state => { state with status := status % 256 }

def succeed : Work Unit := setStatus 0

def writeTo (index : Nat) (channel : Channel) (bytes : List UInt8) : Work (Option SystemError) := do
  if !channel.writable then return some (.numbered 9)
  else
    match channel.target with
    | .nothing => return none
    | .zeros => return none
    | .full => return if bytes.isEmpty then none else some (.numbered 28)
    | .folder => return some .isDirectory
    | .waiting _ => return some (.numbered 9)
    | .kept chunks =>
        modify fun state =>
          state.putChannel index { channel with target := .kept (bytes :: chunks) }
        return none
    | .file location position appends =>
        let state ← get
        match state.files.get? location with
        | some (.file content executable) =>
            let place := if appends then content.length else position
            let files := state.files.put location
              (.file (overwrite content bytes place) executable)
            set ((state.withFiles files).putChannel index
              { channel with target := .file location (place + bytes.length) appends })
            return none
        | _ => return none

def write (stream : Nat) (bytes : List UInt8) : Work (Option SystemError) := do
  match (← get).channel? stream with
  | none => return some (.numbered 9)
  | some (index, channel) => writeTo index channel bytes

def writeText (stream : Nat) (text : String) : Work Unit := do
  discard <| write stream (bytesOfText text)

def say (text : String) : Work Unit :=
  writeText errorStream (text ++ "\n")

def signalTexts : List (Nat × String) := [
  (1, "Hangup"), (3, "Quit"), (4, "Illegal instruction"), (5, "Trace/breakpoint trap"),
  (6, "Aborted"), (7, "Bus error"), (8, "Floating point exception"), (9, "Killed"),
  (10, "User defined signal 1"), (11, "Segmentation fault"), (12, "User defined signal 2"),
  (14, "Alarm clock"), (15, "Terminated"), (16, "Stack fault"), (24, "CPU time limit exceeded"),
  (25, "File size limit exceeded"), (26, "Virtual timer expired"),
  (27, "Profiling timer expired"), (29, "I/O possible"), (30, "Power failure"),
  (31, "Bad system call")]

/-- Tells of the signal that has ended a program, if it is one to be told of. -/
def report : Status → Work Unit
  | .code _ => return
  | .signal number _ =>
      match signalTexts.lookup number with
      | some text => say text
      | none => return

/-- Complains with the name of the script, the line, and the command that runs. -/
def complain (text : String) : Work Unit := do
  let state ← get
  say (state.name ++ ": " ++ toString state.line ++ ": " ++
    (match state.caller with
      | some caller => caller ++ ": "
      | none => "") ++ text)

def refuse (text : String) : Work α := do
  complain text
  throw (.refused 2)

def giveUp (text : String) : Work α := do
  complain text
  throw (.exit 2)

def print (text : String) : Work Unit := do
  match ← write outputStream (bytesOfText text) with
  | none => return
  | some _ => do
      complain (((← get).caller.getD "") ++ ": I/O error")
      throw .unprinted

def assign (name value : String) : Work Unit := do
  let state ← get
  match state.binding? name with
  | some old =>
      if old.readOnly then giveUp (name ++ ": is read only")
      else set (state.putVariable name { old with value := some value })
  | none => set (state.putVariable name ⟨some value, state.hasOption 'a', false⟩)

/-- What is there to be read from a channel, and whether it could be read again. -/
def readable (state : State) (channel : Channel) : Except SystemError (List UInt8) :=
  if !channel.readable then .error (.numbered 9)
  else
    match channel.target with
    | .waiting bytes => .ok bytes
    | .zeros => .ok (List.replicate 1048576 0)
    | .full => .ok (List.replicate 1048576 0)
    | .folder => .error .isDirectory
    | .file location position _ =>
        match state.files.get? location with
        | some (.file content _) => .ok (content.drop position)
        | _ => .ok []
    | _ => .ok []

def unread (stream : Nat) : Work (Except SystemError (List UInt8)) := do
  let state ← get
  match state.channel? stream with
  | none => return .error (.numbered 9)
  | some (_, channel) => return readable state channel

def pass (stream count : Nat) : Work Unit := do
  let state ← get
  match state.channel? stream with
  | none => return
  | some (index, channel) =>
      match channel.target with
      | .waiting bytes =>
          set (state.putChannel index { channel with target := .waiting (bytes.drop count) })
      | .file location position appends =>
          set (state.putChannel index
            { channel with target := .file location (position + count) appends })
      | _ => return

/-- How a process ends that does some work, if nothing is done about its end. -/
def ending (work : Work Unit) : Work Status := do
  try
    work
    return .code (← get).status
  catch leaving =>
    match leaving with
    | .exit status => return .code status
    | .refused status => return .code status
    | .returned status => return .code status
    | .unprinted => return .code 1
    | .signal number => return .signal number false
    | .outOf _ => return .code (← get).status
    | .nextRound _ => return .code (← get).status

def apart (work : Work Unit) : Work Status := do
  let before ← get
  set before.forked
  let status ← ending work
  modify fun after => after.rejoined before
  return status

def keptIn (index : Nat) : Work (List UInt8) := do
  match ((← get).system.channels[index]?).map Channel.target with
  | some (.kept chunks) => return chunks.reverse.flatten
  | _ => return []

def capture (work : Work Unit) : Work (List UInt8 × Status) := do
  let before ← get
  let index := before.system.channels.size
  set (before.lead outputStream ⟨.kept [], false, true⟩)
  let status ← apart work
  let printed ← keptIn index
  modify fun after => { after with descriptors := before.descriptors }
  return (printed, status)

/-- Repeats a step while it says so, with what it made of the value before; `fuel` bounds the
rounds. -/
def rounds (step : α → Work (Bool × α)) (exhausted : Leaving) : (fuel : Nat) → α → Work α
  | 0, _ => throw exhausted
  | fuel + 1, value => fun state =>
      match (step value state : Except Leaving (Bool × α) × State) with
      | (.ok (true, next), after) => rounds step exhausted fuel next after
      | (.ok (false, next), after) => (.ok next, after)
      | (.error leaving, after) => (.error leaving, after)

def thenAlways (change : State → State) (work : Work α) : Work α := do
  try
    let value ← work
    modify change
    return value
  catch leaving => do
    modify change
    throw leaving

end Work

end CircuitDiagram.Shell
