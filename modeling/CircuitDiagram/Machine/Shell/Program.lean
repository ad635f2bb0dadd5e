import CircuitDiagram.Machine.Shell.Redirection
import CircuitDiagram.Machine.Shell.Signal
import CircuitDiagram.Machine.Shell.Tool.Named

/-!
Programs: what a word starts, and how it is started. A program is a tool, a script for a program
that its first line names, or one that starts others.
-/

namespace CircuitDiagram.Shell

open Work

inductive Program where
  | tool (name : String)
  | script (path : String) (content : List UInt8)

def executionFailed : SystemError := .numbered 8

def programIn (path : String) : Option Entry → Except SystemError Program
  | some (.tool name) => .ok (.tool name)
  | some (.file content true) => .ok (.script path content)
  | some _ => .error .permissionDenied
  | none => .error .notFound

def programAt (files : FileSystem) (path : String) : Except SystemError Program :=
  match files.locate (nameOfText path) with
  | .error error => .error error
  | .ok location => programIn path (files.get? location)

/-- The first program in some directories; a file that cannot be run is remembered. -/
def searchProgram (files : FileSystem) (name : String) (failure : SystemError) :
    List String → Except SystemError Program
  | [] => .error failure
  | directory :: rest =>
      match programAt files (if directory.isEmpty then name else directory ++ "/" ++ name) with
      | .ok program => .ok program
      | .error error =>
          searchProgram files name (if error = .permissionDenied then error else failure) rest

/-- What a word starts: a path what is there, and a name what is found for it. -/
def findProgram (state : State) (word : String) : Except SystemError Program :=
  if word.toList.contains '/' then programAt state.files word
  else if word.isEmpty then .error .notFound
  else if FileSystem.longestName < word.length then .error .nameTooLong
  else
    searchProgram state.files word .notFound
      (((state.value? "PATH").getD "/usr/bin:/bin").splitOn ":")

def pathOfProgram? (state : State) (name : String) : Option String :=
  let candidates :=
    if name.toList.contains '/' then [name]
    else (((state.value? "PATH").getD "").splitOn ":").map fun directory =>
      if directory.isEmpty then name else directory ++ "/" ++ name
  candidates.find? fun path =>
    match programAt state.files path with
    | .ok _ => true
    | .error _ => false

def interpreter? (content : List UInt8) : Option (String × List String) :=
  match content with
  | 35 :: 33 :: rest =>
      let line := (textOfBytes (rest.takeWhile (· != lineFeed))).toList.dropWhile isBlankSeparator
      let path := line.takeWhile fun character => !isBlankSeparator character
      let argument := (((line.drop path.length).dropWhile isBlankSeparator).reverse.dropWhile
        isBlankSeparator).reverse
      some (String.ofList path,
        if argument.isEmpty then [] else [String.ofList argument])
  | _ => none

/-- What a tool complains of begins with the word that it was started by. -/
def renamed (name word : String) (bytes : List UInt8) : List UInt8 :=
  let text := textOfBytes bytes
  if name == word then bytes
  else if text.startsWith (name ++ ": ") then
    bytesOfText (word ++ (text.drop name.length).toString)
  else if text.startsWith ("Try '" ++ name ++ " ") then
    bytesOfText ("Try '" ++ word ++ (text.drop (5 + name.length)).toString)
  else bytes

/-- Writes what a tool has written, in order; what its output did not take is complained of. -/
def writeAll (word : String) : List (Nat × List UInt8) → Work Bool
  | [] => return true
  | (stream, bytes) :: rest => do
      match ← write stream bytes with
      | none => writeAll word rest
      | some error =>
          if stream = outputStream && !bytes.isEmpty then
            say (word ++ ": write error: " ++ error.reason)
            return false
          else writeAll word rest

def useTool (name word : String) (tool : Tool) (arguments : List String) : Work Status := do
  let state ← get
  let found ← unread inputStream
  let (bytes, inputError) : List UInt8 × Option SystemError := match found with
    | .ok bytes => (bytes, none)
    | .error error => ([], some error)
  let rereads := match state.channel? inputStream with
    | some (_, ⟨.file _ _ _, _, _⟩) => true
    | _ => false
  let (ended, desk) := tool arguments
    { files := state.files
      input := bytes
      inputError
      rereads
      environment := state.environment
      written := []
      trouble := 0 }
  set (state.withFiles desk.files)
  pass inputStream (bytes.length - desk.input.length)
  let written := desk.written.reverse.map fun (stream, chunk) =>
    (stream, if stream = errorStream then renamed name word chunk else chunk)
  let whole ← writeAll word written
  let status := match ended with
    | .ok status => status
    | .error status => status
  return .code (if whole then status else 1)

/-- Starts words in the process that does the work; tells why they cannot be started. -/
abbrev Start := List String → Work (Except SystemError Status)

abbrev Launcher := Runner → Start → (word : String) → List String → Work Status

end CircuitDiagram.Shell
