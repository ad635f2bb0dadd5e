import CircuitDiagram.Machine.Shell.Program

/-!
Programs that start others: shells, and those that prepare something for the program that their
arguments name.
-/

namespace CircuitDiagram.Shell

open Work

def longOptions : List (String × Char) := [
  ("errexit", 'e'), ("noglob", 'f'), ("ignoreeof", 'I'), ("interactive", 'i'), ("monitor", 'm'),
  ("noexec", 'n'), ("stdin", 's'), ("xtrace", 'x'), ("verbose", 'v'), ("vi", 'V'), ("emacs", 'E'),
  ("noclobber", 'C'), ("allexport", 'a'), ("notify", 'b'), ("nounset", 'u'), ("privileged", 'p')]

def isOptionLetter (letter : Char) : Bool :=
  optionLetters.contains letter || letter == 'p'

def switchOption (on : Bool) (letter : Char) : Work Unit :=
  modify fun state =>
    { state with
      options :=
        if on then (if state.hasOption letter then state.options else letter :: state.options)
        else state.options.filter (· != letter) }

def switchLetters (on : Bool) : List Char → Work Unit
  | [] => return
  | letter :: rest => do
      if isOptionLetter letter then
        switchOption on letter
        switchLetters on rest
      else refuse ("Illegal option " ++ (if on then "-" else "+") ++ letter.toString)

def switchNamed (on : Bool) (name : String) : Work Unit := do
  match longOptions.lookup name with
  | some letter => switchOption on letter
  | none =>
      if name == "nolog" || name == "debug" then return
      else refuse ("Illegal option " ++ (if on then "-" else "+") ++ "o " ++ name)

/-- What the words of a shell ask for: a text to run, or input, and what is left of the words. -/
structure ShellWords where
  hasText : Bool
  readsInput : Bool
  rest : List String

def ShellWords.including (found : ShellWords) (word : String) : ShellWords :=
  let letters := word.toList.drop 1
  { found with
    hasText := found.hasText || (word.startsWith "-" && letters.contains 'c')
    readsInput := found.readsInput || letters.contains 's' }

def shellWords : List String → Work ShellWords
  | [] => return ⟨false, false, []⟩
  | "-" :: rest => return ⟨false, false, rest⟩
  | "--" :: rest => return ⟨false, false, rest⟩
  | word :: rest => do
      if !(word.startsWith "-" || word.startsWith "+") then return ⟨false, false, word :: rest⟩
      else
        let on := word.startsWith "-"
        let letters := word.toList.drop 1
        switchLetters on (letters.filter fun letter => letter != 'c' && letter != 'o')
        if letters.contains 'o' then
          match rest with
          | [] => return (ShellWords.mk false false []).including word
          | name :: more => do
              switchNamed on name
              return (← shellWords more).including word
        else return (← shellWords rest).including word

def scriptIn (path : String) : Work String := do
  match (← get).files.readFile (nameOfText path) with
  | .ok bytes => return textOfBytes bytes
  | .error error => refuse ("cannot open " ++ path ++ ": " ++ pathProblem "No such file" error)

def renew (word : String) : Work Unit :=
  modify fun state =>
    let parent := state.parents.headD 1
    let bindings := state.bindings.filterMap fun (name, found) =>
      if found.exported && found.value.isSome then
        some (name, { found with readOnly := false })
      else none
    let plain (name value : String) : String × Variable := (name, ⟨some value, false, false⟩)
    let path := "/usr/local/sbin:/usr/local/bin:/usr/sbin:/usr/bin:/sbin:/bin"
    let given := [plain "IFS" " \t\n", plain "OPTIND" "1", plain "PS1" "# ", plain "PS2" "> ",
      plain "PS4" "+ ", plain "PPID" (toString parent)]
    let kept := bindings.filter fun entry => !given.any fun other => other.1 == entry.1
    { state with
      bindings := ("PWD", ⟨some (Tool.pathTo state.files.working), true, false⟩) ::
        given ++ (kept.filter fun entry => entry.1 != "PWD") ++
          if kept.any fun entry => entry.1 == "PATH" then [] else [plain "PATH" path]
      functions := []
      aliases := []
      programs := []
      documents := []
      name := word
      arguments := []
      status := 0
      substituted := 0
      line := 0
      lineRead := 0
      caller := none
      options := []
      shell := state.process
      testing := false
      loops := 0
      locals := none
      jobs := []
      optionPlace := 0
      endStatus := none }

def runShell (runner : Runner) (word : String) (words : List String) : Work Unit := do
  renew word
  let found ← shellWords words
  if found.hasText then
    match found.rest with
    | [] => refuse "-c requires an argument"
    | text :: others => do
        modify fun state =>
          { state with name := others.headD word, arguments := others.drop 1 }
        runScript runner 1 text
  else
    match found.readsInput, found.rest with
    | false, path :: arguments => do
        let text ← scriptIn path
        modify fun state => { state with name := path, arguments }
        runScript runner 1 text
    | _, arguments => do
        modify fun state => { state with arguments }
        match ← unread inputStream with
        | .error _ => return
        | .ok bytes => do
            pass inputStream bytes.length
            runScript runner 1 (textOfBytes bytes)

def shell : Launcher := fun runner _ word words =>
  ending (concluding runner (runShell runner word words))

def failed (status : Nat) (complaints : List String) : Work Status := do
  complaints.forM say
  return .code status

def tryHelp (tool : String) : String :=
  "Try '" ++ tool ++ " --help' for more information."

/-- Starts a program for another one, which complains if that cannot be done. -/
def startFor (start : Start) (complaint : String) (words : List String) : Work Status := do
  match ← start words with
  | .ok status => return status
  | .error error =>
      failed (if error = .notFound then 127 else 126) [complaint ++ ": " ++ error.reason]

def dropVariables : Work Unit :=
  modify fun state => { state with bindings := [] }

/-- The words of `env`: changes of variables, and what is left behind them. -/
def envWords : List String → Work (Except String (List String))
  | [] => return .ok []
  | "-i" :: rest => do
      dropVariables
      envWords rest
  | "-" :: rest => do
      dropVariables
      envWords rest
  | "--ignore-environment" :: rest => do
      dropVariables
      envWords rest
  | "--" :: rest => envWords rest
  | "-u" :: name :: rest => do
      modify fun state => state.dropVariable name
      envWords rest
  | word :: rest => do
      if word.startsWith "-" then return .error ((word.drop 1).take 1).toString
      else
        match splitAssignment? word.toList with
        | some (name, value) => do
            modify fun state => state.putVariable name ⟨some (String.ofList value), true, false⟩
            envWords rest
        | none => return .ok (word :: rest)

def env : Launcher := fun _ start word words => do
  match ← envWords words with
  | .error letter => failed 125 [word ++ ": invalid option -- '" ++ letter ++ "'", tryHelp word]
  | .ok [] => do
      (← get).environment.forM fun (name, value) =>
        writeText outputStream (name ++ "=" ++ value ++ "\n")
      return .code 0
  | .ok (program :: arguments) =>
      startFor start (word ++ ": '" ++ program ++ "'") (program :: arguments)

/-- Words without the options before them, of which some letters have a value. -/
def withoutOptions (valued : List Char) : List String → List String
  | [] => []
  | "--" :: rest => rest
  | word :: rest =>
      match word.toList with
      | '-' :: letter :: value =>
          if valued.contains letter && value.isEmpty then
            match rest with
            | _ :: others => withoutOptions valued others
            | [] => []
          else withoutOptions valued rest
      | _ => word :: rest

def passing (valued : List Char) (status : Nat) : Launcher := fun _ start word words =>
  match withoutOptions valued words with
  | [] => failed status [word ++ ": missing operand", tryHelp word]
  | program :: arguments =>
      startFor start (word ++ ": failed to run command '" ++ program ++ "'") (program :: arguments)

def timeout : Launcher := fun _ start word words =>
  match withoutOptions ['k', 's'] words with
  | [] => failed 125 [tryHelp word]
  | interval :: rest =>
      if !Tool.isInterval interval then
        failed 125 [word ++ ": invalid time interval '" ++ interval ++ "'", tryHelp word]
      else
        match rest with
        | [] => failed 125 [tryHelp word]
        | program :: arguments =>
            startFor start (word ++ ": failed to run command '" ++ program ++ "'")
              (program :: arguments)

/-- What stands between quotes in the input of `xargs`, and what follows; nothing if the quotes
are not closed on their line. -/
def quotedItem (quote : Char) : List Char → Option (List Char × List Char)
  | [] => none
  | character :: rest =>
      if character = quote then some ([], rest)
      else if character = '\n' then none
      else (quotedItem quote rest).map fun (text, others) => (character :: text, others)

/-- The items in an input, and the quote that is not closed. Items end at blanks, or at line ends
only; `current` holds the characters of the item that has begun, the last first. -/
def itemsIn (byLines : Bool) : (fuel : Nat) → (current : Option (List Char)) → List Char →
    List String × Option Char
  | 0, _, _ => ([], none)
  | fuel + 1, current, text =>
      let finished := (current.map fun item => String.ofList item.reverse).toList
      match text with
      | [] => (finished, none)
      | '\\' :: next :: rest => itemsIn byLines fuel (some (next :: current.getD [])) rest
      | character :: rest =>
          if character = '"' || character = '\'' then
            match quotedItem character rest with
            | some (inner, others) =>
                itemsIn byLines fuel (some (inner.reverse ++ current.getD [])) others
            | none => (finished, some character)
          else if character = '\n' || (!byLines && (character = ' ' || character = '\t')) then
            let (items, open?) := itemsIn byLines fuel none rest
            (finished ++ items, open?)
          else if byLines && current.isNone && (character = ' ' || character = '\t') then
            itemsIn byLines fuel none rest
          else itemsIn byLines fuel (some (character :: current.getD [])) rest

def xargsUsage : Usage :=
  { usageOf "xargs" 1 "0d:E:I:i:L:n:P:prs:tx" [('0', "null"), ('d', "delimiter"), ('n', "max-args"),
      ('I', "replace"), ('r', "no-run-if-empty"), ('t', "verbose"), ('L', "max-lines")] with
    mixes := false }

def xargsItems (given : Given) (text : String) : List String × Option Char :=
  let splitAt (stop : Char) : List String :=
    let items := text.splitOn stop.toString
    if items.getLast? == some "" then items.dropLast else items
  if given.has '0' then (splitAt '\x00', none)
  else
    match given.value? 'd' with
    | some delimiter =>
        let (stop, _) := match delimiter.toList with
          | '\\' :: rest => escapeIn rest
          | characters => (characters.headD '\n', [])
        (splitAt stop, none)
    | none =>
        itemsIn (given.has 'I' || given.has 'L') (text.length + 1) none text.toList

def commandLines (given : Given) (command items : List String) : List (List String) :=
  match given.value? 'I' with
  | some mark =>
      items.map fun item => command.map fun word => String.intercalate item (word.splitOn mark)
  | none =>
      let count := ((given.value? 'n' <|> given.value? 'L').bind String.toNat?).getD 0
      if items.isEmpty then (if given.has 'r' then [] else [command])
      else if count = 0 then [command ++ items]
      else (Tool.pieces count (items.length + 1) items).map fun piece => command ++ piece

/-- Runs command lines one after the other; tells the status for all of them. -/
def runLines (start : Start) (word : String) (verbose : Bool) (status : Nat) :
    List (List String) → Work Nat
  | [] => return status
  | line :: rest => do
      if verbose then say (String.intercalate " " line)
      let ended ← apart do
        modify fun state => state.lead inputStream ⟨.nothing, true, false⟩
        match ← start line with
        | .ok (.code number) => throw (.exit number)
        | .ok (.signal number _) => throw (.signal number)
        | .error error => do
            say (word ++ ": " ++ line.headD "" ++ ": " ++ error.reason)
            throw (.exit (if error = .notFound then 127 else 126))
      match ended with
      | .code 0 => runLines start word verbose status rest
      | .code 126 => return 126
      | .code 127 => return 127
      | .code 255 => do
          say (word ++ ": " ++ line.headD "" ++ ": exited with status 255; aborting")
          return 124
      | .code _ => runLines start word verbose 123 rest
      | .signal number _ => do
          say (word ++ ": " ++ line.headD "" ++ ": terminated by signal " ++ toString number)
          return 125

def xargs : Launcher := fun _ start word words => do
  let (read, desk) := xargsUsage.read words
    { files := (← get).files
      input := []
      inputError := none
      rereads := false
      environment := []
      written := []
      trouble := 0 }
  match read with
  | .error status => do
      let _ ← writeAll word (desk.written.reverse.map fun (stream, bytes) =>
        (stream, renamed "xargs" word bytes))
      return .code status
  | .ok given => do
      match given.value? 'n' with
      | some text =>
          if (text.toNat?).isNone then
            return ← failed 1 [word ++ ": invalid number \"" ++ text ++ "\" for -n option",
              tryHelp word]
      | none => pure ()
      let bytes := match ← unread inputStream with
        | .ok bytes => bytes
        | .error _ => []
      pass inputStream bytes.length
      let (items, open?) := xargsItems given (textOfBytes bytes)
      let command := if given.operands.isEmpty then ["echo"] else given.operands
      let lines := if open?.isSome && items.isEmpty then [] else commandLines given command items
      let status ← runLines start word (given.has 't') 0 lines
      match open? with
      | some quote =>
          failed 1 [word ++ ": unmatched " ++ (if quote = '"' then "double" else "single") ++
            " quote; by default quotes are special to xargs unless you use the -0 option"]
      | none => return .code status

def launchers : List (String × Launcher) := [
  ("sh", shell), ("dash", shell), ("bash", shell), ("env", env), ("xargs", xargs),
  ("timeout", timeout), ("nice", passing ['n'] 125), ("nohup", passing [] 125),
  ("setsid", passing [] 1), ("stdbuf", passing ['i', 'o', 'e'] 125)]

/-- Starts words in the process that does the work; `fuel` bounds how many programs start each
other. -/
def startProgram (runner : Runner) : (fuel : Nat) → Start
  | 0, _ => return .error executionFailed
  | _ + 1, [] => return .error .notFound
  | fuel + 1, word :: arguments => do
      match findProgram (← get) word with
      | .error error => return .error error
      | .ok (.tool name) =>
          match Tool.named.lookup name, launchers.lookup name with
          | some tool, _ => return .ok (← useTool name word tool arguments)
          | none, some launcher =>
              return .ok (← launcher runner (startProgram runner fuel) word arguments)
          | none, none => return .error .notFound
      | .ok (.script path content) =>
          match interpreter? content with
          | some (interpreter, first) =>
              startProgram runner fuel (interpreter :: first ++ path :: arguments)
          | none => return .error executionFailed

def longestChain : Nat := 200

end CircuitDiagram.Shell
