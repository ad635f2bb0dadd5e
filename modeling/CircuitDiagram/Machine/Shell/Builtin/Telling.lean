import CircuitDiagram.Machine.Shell.Builtin.Control
import CircuitDiagram.Machine.Shell.Condition
import CircuitDiagram.Machine.Shell.Format

/-!
Commands of the shell that print something, test something or tell what words mean to it.
-/

namespace CircuitDiagram.Shell.Builtin

open Work

def echo (words : List String) : Work Unit := do
  print (echoed words)
  succeed

def printf (words : List String) : Work Unit := do
  let (_, operands) ← readOptions [] [] words
  match operands with
  | [] => refuse "usage: printf format [arg ...]"
  | format :: arguments => do
      let printing := formatted format arguments
      printing.complaints.forM complain
      print (String.ofList printing.text.reverse)
      if printing.failed then throw (.refused 2)
      else setStatus (if printing.complaints.isEmpty then 0 else 1)

def test (words : List String) : Work Unit := do
  match Condition.holds (← get).files words with
  | .ok holds => setStatus (if holds then 0 else 1)
  | .error complaint => refuse complaint

def bracket (words : List String) : Work Unit := do
  if words.getLast? == some "]" then test words.dropLast else refuse "missing ]"

def workingPath (state : State) : String :=
  Tool.pathTo state.files.working

def printDirectory (words : List String) : Work Unit := do
  let _ ← readOptions ['L', 'P'] [] words
  print (workingPath (← get) ++ "\n")
  succeed

def publish (name value : String) : Work Unit := do
  assign name value
  modify fun state => state.putVariable name ⟨some value, true, false⟩

def changeDirectory (words : List String) : Work Unit := do
  let (_, operands) ← readOptions ['L', 'P'] [] words
  let state ← get
  let target := match operands with
    | [] => (state.value? "HOME").getD ""
    | "-" :: _ => (state.value? "OLDPWD").getD ""
    | word :: _ => word
  if target.isEmpty then succeed
  else
    match state.files.locate (nameOfText target) with
    | .error _ => refuse ("can't cd to " ++ target)
    | .ok location =>
        if !state.files.isDirectoryAt location then refuse ("can't cd to " ++ target)
        else
          let old := workingPath state
          set (state.withFiles { state.files with working := location })
          publish "OLDPWD" old
          publish "PWD" (Tool.pathTo location)
          if operands.head? == some "-" then print (Tool.pathTo location ++ "\n")
          succeed

/-- Commands of the shell that a script needs to go on: an error in them ends it. -/
def specialNames : List String :=
  Reading.specialNames ++ ["local"]

def plainNames : List String :=
  ["alias", "bg", "cd", "chdir", "command", "echo", "false", "fg", "getopts", "hash", "jobs",
    "kill", "printf", "pwd", "read", "test", "[", "true", "type", "ulimit", "umask", "unalias",
    "wait"]

def keywords : List String :=
  ["!", "case", "do", "done", "elif", "else", "esac", "fi", "for", "if", "in", "then", "until",
    "while", "\x7b", "\x7d"]

/-- Remembers the path at which a program has been found, the last of all. -/
def rememberProgram (name path : String) : Work Unit :=
  modify fun state =>
    { state with
      programs := (state.programs.filter fun entry => entry.1 != name) ++ [(name, path)] }

/-- Remembers where a word's program is, unless that is known or the word is a path. -/
def searchFor (word : String) : Work Unit := do
  let state ← get
  if word.toList.contains '/' || (state.programs.lookup word).isSome then return
  else
    match pathOfProgram? state word with
    | some path => rememberProgram word path
    | none => return

/-- What a shell has kept under names, in the order in which it tells it: by the rest of a sum over
the name, and then the oldest first. -/
def byBucket (buckets : Nat) (entries : List (String × String)) : List (String × String) :=
  let bucketOf (name : String) : Nat :=
    let bytes := (bytesOfText name).map UInt8.toNat
    (bytes.foldl (· + ·) (16 * bytes.headD 0)) % buckets
  (List.range buckets).flatMap fun bucket => entries.filter fun entry => bucketOf entry.1 == bucket

inductive Meaning where
  | keyword
  | stand (text : String)
  | function
  | special
  | plain
  | program (path : String) (known : Bool)

def meaning? (state : State) (word : String) : Option Meaning :=
  if keywords.contains word then some .keyword
  else
    match state.aliases.lookup word with
    | some text => some (.stand text)
    | none =>
        if (state.functions.lookup word).isSome then some .function
        else if specialNames.contains word then some .special
        else if plainNames.contains word then some .plain
        else
          (pathOfProgram? state word).map fun path =>
            .program path (state.programs.lookup word).isSome

def describe (words : List String) : Work Unit := do
  succeed
  words.forM fun word => do
    match meaning? (← get) word with
    | some meaning => do
        print (word ++ " is " ++ told meaning ++ "\n")
        searchFor word
    | none => do
        print (word ++ ": not found\n")
        setStatus 127
where
  told : Meaning → String
    | .keyword => "a shell keyword"
    | .stand text => "an alias for " ++ text
    | .function => "a shell function"
    | .special => "a special shell builtin"
    | .plain => "a shell builtin"
    | .program path known => (if known then "a tracked alias for " else "") ++ path

def aliasLine (name text : String) : String :=
  name ++ "=" ++ singleQuoted text ++ "\n"

def tellCommand (briefly : Bool) (words : List String) : Work Unit := do
  match words with
  | [] => succeed
  | word :: _ =>
      if !briefly then describe [word]
      else
        match meaning? (← get) word with
        | some meaning => do
            print (match meaning with
              | .stand text => "alias " ++ aliasLine word text
              | .program path _ => path ++ "\n"
              | _ => word ++ "\n")
            searchFor word
            succeed
        | none => setStatus 127

def setAlias (name text : String) : Work Unit :=
  modify fun state =>
    { state with
      aliases :=
        if (state.aliases.lookup name).isSome then
          state.aliases.map fun entry => if entry.1 == name then (name, text) else entry
        else state.aliases ++ [(name, text)] }

def defineAliases (words : List String) : Work Unit := do
  succeed
  if words.isEmpty then
    (byBucket 39 (← get).aliases).forM fun (name, text) => print (aliasLine name text)
  else
    words.forM fun word => do
      let name := word.toList.take 1 ++ (word.toList.drop 1).takeWhile (· != '=')
      if name.length < word.length then
        setAlias (String.ofList name) (String.ofList (word.toList.drop (name.length + 1)))
      else
        match (← get).aliases.lookup word with
        | some text => print (aliasLine word text)
        | none => do
            say ("alias: " ++ word ++ " not found")
            setStatus 1

def unalias (words : List String) : Work Unit := do
  let (found, operands) ← readOptions ['a'] [] words
  succeed
  if !found.isEmpty then modify fun state => { state with aliases := [] }
  else
    operands.forM fun word => do
      let state ← get
      if (state.aliases.lookup word).isSome then
        set { state with aliases := state.aliases.filter fun entry => entry.1 != word }
      else
        say ("unalias: " ++ word ++ " not found")
        setStatus 1

/-- Tells where programs have been found, forgets it, or searches for some. -/
def hash (words : List String) : Work Unit := do
  let (found, operands) ← readOptions ['r'] [] words
  succeed
  if !found.isEmpty then modify fun state => { state with programs := [] }
  else if operands.isEmpty then
    (byBucket 31 (← get).programs).forM fun entry => print (entry.2 ++ "\n")
  else
    operands.forM fun word => do
      let state ← get
      let isOwn := (state.functions.lookup word).isSome || specialNames.contains word ||
        plainNames.contains word || word.toList.contains '/'
      if isOwn then return
      else
        match pathOfProgram? state word with
        | some path => rememberProgram word path
        | none => do
            complain (word ++ ": not found")
            setStatus 1

def table (runner : Runner) : List (String × (List String → Work Unit)) := [
  (":", fun _ => succeed), ("true", fun _ => succeed), ("false", fun _ => setStatus 1),
  ("echo", echo), ("printf", printf), ("test", test), ("[", bracket), ("pwd", printDirectory),
  ("cd", changeDirectory), ("chdir", changeDirectory), ("type", describe), ("alias", defineAliases),
  ("unalias", unalias), ("exit", exitShell), ("return", returnFrom), ("break", breakLoop),
  ("continue", continueLoop), ("shift", shiftArguments), ("set", setOptions),
  ("export", exportVariables), ("readonly", guardVariables), ("unset", unsetVariables),
  ("local", localVariables), ("read", readVariables), ("getopts", nextGivenOption),
  ("trap", trap), ("kill", kill), ("wait", waitFor), ("umask", umask), ("ulimit", ulimit),
  ("times", times), ("hash", hash), ("jobs", listJobs), ("bg", resumeJob),
  ("fg", resumeJob), ("eval", evaluate runner), (".", source runner)]

end CircuitDiagram.Shell.Builtin
