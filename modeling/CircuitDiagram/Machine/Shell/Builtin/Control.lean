import CircuitDiagram.Machine.Shell.Builtin.Variables

/-!
Commands of the shell that say how to go on, and those for signals and other processes.
-/

namespace CircuitDiagram.Shell.Builtin

open Work

def exitShell (words : List String) : Work Unit := do
  match words with
  | [] => do
      let state ← get
      throw (.exit (state.endStatus.getD state.status))
  | word :: _ => throw (.exit ((← wholeNumber word) % 256))

def returnFrom (words : List String) : Work Unit := do
  match words with
  | [] => throw (.returned (← get).status)
  | word :: _ => throw (.returned ((← wholeNumber word) % 256))

def loopCount (words : List String) : Work Nat := do
  let count ← match words with
    | [] => pure 1
    | word :: _ => wholeNumber word
  if count = 0 then refuse ("Illegal number: " ++ words.headD "")
  else
    let loops := (← get).loops
    return if loops < count then loops else count

def breakLoop (words : List String) : Work Unit := do
  let count ← loopCount words
  succeed
  if count != 0 then throw (.outOf count)

def continueLoop (words : List String) : Work Unit := do
  let count ← loopCount words
  succeed
  if count != 0 then throw (.nextRound count)

def trapLines (state : State) : List String :=
  let traps := state.traps.mergeSort fun left right => decide (left.1 ≤ right.1)
  traps.map fun (number, text) => "trap -- " ++ singleQuoted text ++ " " ++ signalLabel number

def setTraps (action : Option String) : List String → Work Unit
  | [] => succeed
  | word :: rest => do
      match signalNumber? word with
      | none => do
          say ("trap: " ++ word ++ ": bad trap")
          setStatus 1
      | some number => do
          modify fun state =>
            let others := state.traps.filter fun entry => entry.1 != number
            { state with
              traps := match action with
                | some text => (number, text) :: others
                | none => others }
          setTraps action rest

def trap (words : List String) : Work Unit := do
  let (_, operands) ← readOptions [] [] words
  match operands with
  | [] => do
      (trapLines (← get)).forM fun line => print (line ++ "\n")
      succeed
  | [word] => setTraps none [word]
  | action :: signals =>
      if (action.toNat?.any fun number => decide (number ≤ 64)) then setTraps none operands
      else setTraps (if action == "-" then none else some action) signals

def killUsage {α : Type} : Work α :=
  refuse ("Usage: kill [-s sigspec | -signum | -sigspec] [pid | job]... or\n" ++
    "kill -l [exitstatus]")

/-- The process in the background that a word is for, with the status that it has ended with. -/
def jobOf (word : String) : Work (Nat × Nat) := do
  let jobs := (← get).jobs
  match word with
  | "" => job? jobs[0]? "No current job"
  | "%" => job? jobs[0]? "No current job"
  | "%%" => job? jobs[0]? "No current job"
  | "%+" => job? jobs[0]? "No current job"
  | "%-" => job? jobs[1]? "No previous job"
  | _ =>
      let number := ((word.drop 1).toString.toNat?).getD 0
      job? (if number = 0 then none else jobs.reverse[number - 1]?) ("No such job: " ++ word)
where
  job? (job : Option (Nat × Nat)) (complaint : String) : Work (Nat × Nat) := do
    match job with
    | some found => return found
    | none => refuse complaint

/-- Tells nothing of processes in the background, but wants those to be there that it is asked
about. -/
def listJobs (words : List String) : Work Unit := do
  let (_, operands) ← readOptions ['l', 'p'] [] words
  operands.forM fun word => do discard <| jobOf word
  succeed

def resumeJob (words : List String) : Work Unit := do
  let (_, operands) ← readOptions [] [] words
  let word := operands.headD ""
  let _ ← jobOf word
  refuse ("job " ++ (if word.isEmpty then "(null)" else word) ++ " not created under job control")

def sendEach (number : Nat) : List String → Work Unit
  | [] => return
  | word :: rest => do
      let isThere ←
        if word.startsWith "%" then do
          discard <| jobOf word
          pure false
        else do send (← wholeNumber word) number
      if !isThere then
        complain "No such process\n"
        setStatus 1
      sendEach number rest

def listSignals (words : List String) : Work Unit := do
  match words with
  | [] => do
      print (String.intercalate "\n" ("0" :: signalNames) ++ "\n")
      succeed
  | word :: _ => do
      let number ← wholeNumber word
      let signal := if 128 < number then number - 128 else number
      match signalName? signal with
      | some name => do
          print (name ++ "\n")
          succeed
      | none => refuse ("invalid signal number or exit status: " ++ word)

def kill (words : List String) : Work Unit := do
  match words with
  | [] => killUsage
  | first :: rest => do
      let given := if first.startsWith "-" then signalNumber? (first.drop 1).toString else none
      match given with
      | some number => deliverTo number rest
      | none => do
          let (found, operands) ← readOptions ['l'] ['s'] words
          if found.any fun option => option.1 == 'l' then listSignals operands
          else
            match (found.getLast?).map Prod.snd with
            | none => deliverTo 15 operands
            | some name =>
                match signalNumber? name with
                | some number => deliverTo number operands
                | none => refuse ("invalid signal number or name: " ++ name)
where
  deliverTo (number : Nat) (targets : List String) : Work Unit := do
    if targets.isEmpty then killUsage
    else
      succeed
      sendEach number targets

def waitFor (words : List String) : Work Unit := do
  let (_, operands) ← readOptions [] [] words
  succeed
  operands.forM fun word => do
    if word.startsWith "%" then setStatus (← jobOf word).2
    else
      let process ← wholeNumber word
      setStatus (((← get).jobs.lookup process).getD 127)

def umask (words : List String) : Work Unit := do
  let (found, operands) ← readOptions ['S'] [] words
  match operands with
  | [] => do
      print (if found.isEmpty then "0022\n" else "u=rwx,g=rx,o=rx\n")
      succeed
  | word :: _ =>
      if word.toList.all (fun digit => digit.isDigit) &&
          !(word.toList.all fun digit => (octalDigit? digit).isSome) then
        refuse ("Illegal number: " ++ word)
      else succeed

def ulimit (words : List String) : Work Unit := do
  if words.isEmpty then print "unlimited\n"
  succeed

def times (_ : List String) : Work Unit := do
  print "0m0.00s 0m0.00s\n0m0.00s 0m0.00s\n"
  succeed

def evaluate (runner : Runner) (words : List String) : Work Unit := do
  let text := String.intercalate " " words
  succeed
  runScript runner 1 text

def sourcePath (word : String) : Work String := do
  if word.toList.contains '/' then return word
  else
    let state ← get
    let directories := ((state.value? "PATH").getD "").splitOn ":"
    let paths := directories.map fun directory =>
      if directory.isEmpty then word else directory ++ "/" ++ word
    let isThere (path : String) : Bool :=
      match state.files.locate (nameOfText path) with
      | .ok location => !state.files.isDirectoryAt location
      | .error _ => false
    match paths.find? isThere with
    | some path => return path
    | none => refuse (word ++ ": not found")

def source (runner : Runner) (words : List String) : Work Unit := do
  match words with
  | [] => succeed
  | word :: _ => do
      let path ← sourcePath word
      let text ← scriptIn path
      succeed
      modify fun state => { state with caller := some path }
      try
        runScript runner 1 text
      catch leaving =>
        match leaving with
        | .returned status => setStatus status
        | _ => throw leaving

end CircuitDiagram.Shell.Builtin
