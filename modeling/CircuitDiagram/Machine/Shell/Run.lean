import CircuitDiagram.Machine.Shell.Builtin.Telling

/-!
Running commands. `step` runs one command and leaves the commands in it to another runner; `run`
ties the knot, with `fuel` for the depth. A shell that runs out of it dies of the signal for too
much time spent.
-/

namespace CircuitDiagram.Shell

open Work

def timeSignal : Nat := 24

def longestLoop : Nat := 10000000

/-- Leads to the end of a process in the way that another one has ended. -/
def endAs {α : Type} : Status → Work α
  | .code number => throw (.exit number)
  | .signal number _ => throw (.signal number)

/-- What is wrong with a program that cannot be started, and the status that this gives. -/
def startProblem (error : SystemError) : String × Nat :=
  if error = .notFound || error = .notDirectory then ("not found", 127)
  else (error.reason, if error = .nameTooLong then 127 else 126)

def become (runner : Runner) (words : List String) : Work Status := do
  let start := startProgram runner longestChain
  match ← start words with
  | .ok status => return status
  | .error error =>
      if error = executionFailed then
        match ← start ("/bin/sh" :: words) with
        | .ok status => return status
        | .error _ => return .code 126
      else
        let (text, status) := startProblem error
        complain (words.headD "" ++ ": " ++ text)
        return .code status

def runProgram (runner : Runner) (words : List String) : Work Unit := do
  let word := words.headD ""
  let state ← get
  match if word.isEmpty then .error .permissionDenied else findProgram state word with
  | .error error =>
      if word.toList.contains '/' then runApart
      else
        complain (word ++ ": " ++ (startProblem error).1)
        setStatus 127
  | .ok _ => do
      Builtin.searchFor word
      runApart
where
  runApart : Work Unit := do
    let ended ← apart do endAs (← become runner words)
    report ended
    setStatus ended.number

def replaceShell (runner : Runner) (words : List String) : Work Unit := do
  if words.isEmpty then succeed
  else
    let state ← get
    match findProgram state (words.headD "") with
    | .error _ => endAs (← become runner words)
    | .ok _ => do
        set { state with traps := state.traps.filter fun entry => entry.2.isEmpty }
        endAs (← become runner words)

def called (name : String) (work : Work Unit) : Work Unit := do
  let before := (← get).caller
  modify fun state => { state with caller := some name }
  thenAlways (fun state => { state with caller := before }) work

/-- Does the work of a command; when it gives up, only a special one ends the shell. -/
def attempt (isSpecial : Bool) (work : Work Unit) : Work Unit := do
  try
    work
  catch leaving =>
    match leaving with
    | .refused status => if isSpecial then throw (.exit status) else setStatus status
    | .unprinted => setStatus 1
    | _ => throw leaving

def runFunction (runner : Runner) (function : Function) (arguments : List String) :
    Work Unit := do
  let before ← get
  set { before with arguments, locals := some [], loops := 0 }
  let restore (state : State) : State :=
    let kept := state.locals.getD []
    let back := kept.foldl (fun state (name, old) =>
      match old with
      | some found => state.putVariable name found
      | none => state.dropVariable name) state
    { back with arguments := before.arguments, locals := before.locals, loops := before.loops }
  thenAlways restore do
    try
      runner function.body
    catch leaving =>
      match leaving with
      | .returned status => setStatus status
      | _ => throw leaving

/-- The words behind `command` and its options, and the letter of what is asked about them. -/
def plainCommand (words : List String) : Work (Option Char × List String) := do
  let (found, operands) ← Builtin.readOptions ['p', 'v', 'V'] [] words
  let asked := (found.map Prod.fst).filter fun letter => letter != 'p'
  return (asked.head?, operands)

/-- Runs words that are no function: a command of the shell or a program. -/
def runPlain (runner : Runner) : List String → Work Unit
  | [] => succeed
  | "command" :: rest => called "command" do
      match ← plainCommand rest with
      | (some letter, operands) => Builtin.tellCommand (letter == 'v') operands
      | (none, operands) => runOther operands
  | words => runOther words
where
  runOther : List String → Work Unit
    | [] => succeed
    | "exec" :: arguments => called "exec" (replaceShell runner arguments)
    | word :: arguments =>
        match (Builtin.table runner).lookup word with
        | some builtin => called word (builtin arguments)
        | none => runProgram runner (word :: arguments)

def runWords (runner : Runner) (words : List String) : Work Unit := do
  match (← get).functions.lookup (words.headD "") with
  | some function => runFunction runner function (words.drop 1)
  | none => runPlain runner words

/-- Literal text with the home directory for each tilde that begins a path in a list of them. -/
def homeIn (state : State) (isFirst isLast : Bool) (text : String) : List Part :=
  let pieces := text.splitOn ":"
  let count := pieces.length
  let parts := (pieces.zip (List.range count)).map fun (piece, place) =>
    let begins := isFirst || place != 0
    let ends := isLast || place + 1 != count || piece.length != 1
    match if begins && ends then homeOf state piece else none with
    | some (home, rest) => [Part.text home true, .text rest false]
    | none => [.text piece false]
  (parts.foldr (fun piece rest =>
    if rest.isEmpty then piece else piece ++ .text ":" false :: rest) [])

def expandValue (runner : Runner) (word : Word) : Work String := do
  let state ← get
  let rec changed (isFirst : Bool) : Word → Word
    | [] => []
    | .text text false :: rest =>
        homeIn state isFirst rest.isEmpty text ++ changed false rest
    | part :: rest => part :: changed false rest
  return textOf (← expandEach (expandPart runner deepest) ⟨false, false⟩ (changed true word))

/-- Gives variables their values one after the other; programs get to see them if wanted. -/
def assignEach (runner : Runner) (exported : Bool) : List Assignment → Work (List String)
  | [] => return []
  | .set name word :: rest => do
      let value ← expandValue runner word
      assign name value
      if exported then
        modify fun state => state.putVariable name ⟨some value, true, false⟩
      return (name ++ "=" ++ value) :: (← assignEach runner exported rest)

def assignedNames (assignments : List Assignment) : List String :=
  assignments.map fun (.set name _) => name

def declaringNames : List String := ["export", "readonly", "local"]

def expandDeclared (runner : Runner) : List Word → Work (List String)
  | [] => return []
  | word :: rest => do
      let here ← match assignment? word with
        | some (.set name value) => do
            let text ← expandValue runner value
            pure [name ++ "=" ++ text]
        | none => expandFields runner [word]
      return here ++ (← expandDeclared runner rest)

def expandArguments (runner : Runner) : List Word → Work (List String)
  | [] => return []
  | word :: rest => do
      let first ← expandFields runner [word]
      match first with
      | [name] =>
          if declaringNames.contains name then return name :: (← expandDeclared runner rest)
          else return name :: (← expandFields runner rest)
      | _ => return first ++ (← expandFields runner rest)

/-- Tells a command before it runs, where errors went before its redirections. -/
def traceCommand (errors : Option Nat) (words : List String) : Work Unit := do
  let state ← get
  if state.hasOption 'x' then
    match errors with
    | none => return
    | some index =>
        match state.system.channels[index]? with
        | none => return
        | some channel =>
            let text := (state.value? "PS4").getD "" ++ String.intercalate " " words ++ "\n"
            discard <| writeTo index channel (bytesOfText text)

structure Request where
  words : List String
  isSpecial : Bool
  keepsStreams : Bool

def requestFor (state : State) (words : List String) : Request :=
  let word := words.headD ""
  let isFunction := (state.functions.lookup word).isSome
  { words
    isSpecial := !isFunction && Builtin.specialNames.contains word
    keepsStreams := !isFunction && (words.dropWhile (· == "command")).head? == some "exec" }

def runSimple (runner : Runner) (line : Nat) (assignments : List Assignment) (words : List Word)
    (redirections : List Redirection) : Work Unit := do
  modify fun state => { state with line, substituted := 0 }
  let fields ← expandArguments runner words
  let before ← get
  let request := requestFor before fields
  let errors := (before.channel? errorStream).map Prod.fst
  let back (state : State) : State :=
    if request.keepsStreams then state else { state with descriptors := before.descriptors }
  attempt request.isSpecial <| thenAlways back do
    redirect runner redirections
    if fields.isEmpty then
      let shown ← assignEach runner false assignments
      if !shown.isEmpty then traceCommand errors shown
      setStatus (← get).substituted
    else if request.isSpecial then
      let shown ← assignEach runner (request.keepsStreams && 1 < fields.length) assignments
      traceCommand errors (shown ++ fields)
      runWords runner fields
    else
      let old := (assignedNames assignments).map fun name => (name, before.binding? name)
      let restore (state : State) : State :=
        old.foldl (fun state (name, found) =>
          match found with
          | some old => state.putVariable name old
          | none => state.dropVariable name) state
      thenAlways restore do
        let shown ← assignEach runner true assignments
        traceCommand errors (shown ++ fields)
        runWords runner fields

/-- The end of a command: in a strict shell a failure is the end of all. -/
def settle : Work Unit := do
  let state ← get
  if state.hasOption 'e' && !state.testing && state.status != 0 then throw (.exit state.status)

def runTest (runner : Runner) (command : Command) : Work Bool := do
  let before := (← get).testing
  modify fun state => { state with testing := true }
  thenAlways (fun state => { state with testing := before }) (runner command)
  return (← get).status == 0

/-- Runs commands in processes of their own, each of which reads what the one before prints. -/
def runPipeline (runner : Runner) : List Command → Work Unit
  | [] => return
  | [last] => do
      let ended ← apart (concluding runner (runner last))
      report ended
      setStatus ended.number
  | first :: rest => do
      let (bytes, _) ← capture (concluding runner (runner first))
      let before := (← get).descriptors
      modify fun state => state.lead inputStream ⟨.waiting bytes, true, false⟩
      thenAlways (fun state => { state with descriptors := before }) (runPipeline runner rest)

/-- Does the work of one round of a loop; tells whether the loop goes on. -/
def inRound (work : Work Bool) : Work Bool := do
  try
    work
  catch leaving =>
    match leaving with
    | .outOf loops => if loops ≤ 1 then return false else throw (.outOf (loops - 1))
    | .nextRound loops => if loops ≤ 1 then return true else throw (.nextRound (loops - 1))
    | _ => throw leaving

def withLoop (work : Work Unit) : Work Unit := do
  let before := (← get).loops
  modify fun state => { state with loops := before + 1 }
  thenAlways (fun state => { state with loops := before }) work

def runLoop (runner : Runner) (whileSucceeds : Bool) (test body : Command) : Work Unit :=
  withLoop do
    let last ← rounds (fun last => do
      let goesOn ← inRound do
        if (← runTest runner test) == whileSucceeds then
          runner body
          return true
        else
          setStatus last
          return false
      return (goesOn, (← get).status)) (.signal timeSignal) longestLoop 0
    setStatus last

def eachRound (runner : Runner) (name : String) (body : Command) : List String → Work Unit
  | [] => return
  | value :: rest => do
      assign name value
      let goesOn ← inRound do
        runner body
        return true
      if goesOn then eachRound runner name body rest else return

def anyMatches (runner : Runner) (text : String) : List Word → Work Bool
  | [] => return false
  | word :: rest => do
      let pieces ← expandWord runner ⟨false, false⟩ word
      if matchesPattern (pattern (joinPieces pieces)) text.toList then return true
      else anyMatches runner text rest

def runArm (runner : Runner) (text : String) : List Arm → Work Unit
  | [] => succeed
  | .on patterns body :: rest => do
      if ← anyMatches runner text patterns then
        match body with
        | .nothing => succeed
        | _ => runner body
      else runArm runner text rest

/-- Runs a command in the background, which is done before anything else happens. -/
def runBackground (runner : Runner) (body : Command) : Work Unit := do
  let number := (← get).system.processes + 1
  let ended ← apart do
    modify fun state => state.lead inputStream ⟨.nothing, true, false⟩
    concluding runner (runner body)
  modify fun state => { state with jobs := (number, ended.number) :: state.jobs }
  succeed

def atLine (line : Nat) : Work Unit :=
  modify fun state => { state with line }

def stepCommand (runner : Runner) (command : Command) : Work Unit := do
  match command with
  | .nothing => return
  | .simple line assignments words redirections =>
      runSimple runner line assignments words redirections
      settle
  | .pipeline commands => do
      runPipeline runner commands
      settle
  | .negated body => do
      let succeeded ← runTest runner body
      setStatus (if succeeded then 1 else 0)
  | .background line body => do
      atLine line
      runBackground runner body
  | .sequence first second => do
      runner first
      runner second
  | .ifSucceeds first second => do
      if ← runTest runner first then runner second
  | .ifFails first second => do
      if !(← runTest runner first) then runner second
  | .conditional test thenPart elsePart => do
      if ← runTest runner test then runner thenPart
      else
        match elsePart with
        | .nothing => succeed
        | _ => runner elsePart
  | .loop whileSucceeds test body => runLoop runner whileSucceeds test body
  | .each line name words body => do
      atLine line
      let fields ← expandFields runner words
      if fields.isEmpty then succeed else withLoop (eachRound runner name body fields)
  | .select line subject arms => do
      atLine line
      let text ← expandText runner subject
      runArm runner text arms
  | .isolated line body redirections => do
      atLine line
      let ended ← apart <| concluding runner do
        redirect runner redirections
        runner body
      report ended
      setStatus ended.number
      settle
  | .redirected line body redirections => do
      atLine line
      let before := (← get).descriptors
      attempt false <| thenAlways (fun state => { state with descriptors := before }) do
        redirect runner redirections
        runner body
  | .function line name body => do
      modify fun state =>
        { state with
          functions := (name, ⟨line, body⟩) :: state.functions.filter fun entry =>
            entry.1 != name }
      succeed

/-- Runs a command unless commands are only read, and lets signals through. -/
def step (runner : Runner) (command : Command) : Work Unit := do
  if (← get).hasOption 'n' then return
  else
    stepCommand runner command
    deliver runner

def run : (fuel : Nat) → Runner
  | 0, _ => throw (.signal timeSignal)
  | fuel + 1, command => step (run fuel) command

end CircuitDiagram.Shell
