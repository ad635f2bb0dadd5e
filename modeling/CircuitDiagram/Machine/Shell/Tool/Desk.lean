import CircuitDiagram.Machine.Shell.Octets

/-!
What a tool works on: the files, its input and the variables it is given. It prints and complains
in an order that is kept, changes files, and leaves what it did not read of its input.
-/

namespace CircuitDiagram.Shell

structure Desk where
  files : FileSystem
  input : List UInt8
  inputError : Option SystemError
  rereads : Bool
  environment : List (String × String)
  written : List (Nat × List UInt8)
  trouble : Nat

abbrev Chore := ExceptT Nat (StateM Desk)

abbrev Tool := List String → Chore Nat

namespace Chore

variable {α : Type}

def printBytes (bytes : List UInt8) : Chore Unit :=
  modify fun desk => { desk with written := (1, bytes) :: desk.written }

def print (text : String) : Chore Unit :=
  printBytes (bytesOfText text)

def printLine (text : String) : Chore Unit :=
  print (text ++ "\n")

def say (text : String) : Chore Unit :=
  modify fun desk => { desk with written := (2, bytesOfText (text ++ "\n")) :: desk.written }

def note (status : Nat) (text : String) : Chore Unit := do
  say text
  modify fun desk => { desk with trouble := if desk.trouble < status then status else desk.trouble }

def fail (status : Nat) (text : String) : Chore α := do
  say text
  throw status

def finish : Chore Nat := do
  return (← get).trouble

def takeInput : Chore (List UInt8) := do
  let desk ← get
  set { desk with input := [] }
  return desk.input

/-- All that is left of the input, for a tool that can do nothing without it. -/
def requireInput (tool : String) : Chore (List UInt8) := do
  match (← get).inputError with
  | some error => fail 1 (tool ++ ": read error: " ++ error.reason)
  | none => takeInput

def isInput (path : String) : Bool :=
  path == "-" || path == "/dev/stdin" || path == "/dev/fd/0" || path == "/proc/self/fd/0"

def endlessLength : Nat := 1048576

/-- The content of an operand; the input has the names of a dash and of its device. -/
def contentOf (path : String) : Chore (Except SystemError (List UInt8)) := do
  if isInput path then
    match (← get).inputError with
    | some error => return .error error
    | none => return .ok (← takeInput)
  else if path == "/dev/zero" then return .ok (List.replicate endlessLength 0)
  else return (← get).files.readFile (nameOfText path)

/-- Does something with the content of each operand that can be read, or of the input. -/
def forContents (paths : List String) (unreadable : String → SystemError → Chore Unit)
    (use : String → List UInt8 → Chore Unit) : Chore Unit :=
  go (if paths.isEmpty then ["-"] else paths)
where
  go : List String → Chore Unit
    | [] => return
    | path :: rest => do
        match ← contentOf path with
        | .ok bytes => use path bytes
        | .error error => unreadable path error
        go rest

def unreadable (status : Nat) (tool path : String) (error : SystemError) : Chore Unit :=
  note status (tool ++ ": " ++ path ++ ": " ++ error.reason)

def contentsOf (status : Nat) (tool : String) : List String → Chore (List (List UInt8))
  | [] => return []
  | path :: rest => do
      match ← contentOf path with
      | .ok bytes => return bytes :: (← contentsOf status tool rest)
      | .error error => do
          unreadable status tool path error
          contentsOf status tool rest

/-- The same, or the input if there are no operands, one behind the other. -/
def allContents (status : Nat) (tool : String) (paths : List String) : Chore (List UInt8) := do
  return (← contentsOf status tool (if paths.isEmpty then ["-"] else paths)).flatten

def changeFiles (result : Except SystemError Unit × FileSystem) :
    Chore (Except SystemError Unit) := do
  modify fun desk => { desk with files := result.2 }
  return result.1

def writeFile (path : String) (content : List UInt8) : Chore (Except SystemError Unit) := do
  changeFiles ((← get).files.writeFile (nameOfText path) content)

def locate (path : String) : Chore (Except SystemError Location) := do
  return (← get).files.locate (nameOfText path)

def entryAt (path : String) : Chore (Option Entry) := do
  let files := (← get).files
  match files.locate (nameOfText path) with
  | .ok location => return files.get? location
  | .error _ => return none

def forEach {β : Type} (use : β → Chore Unit) : List β → Chore Unit
  | [] => return
  | item :: rest => do
      use item
      forEach use rest

end Chore

/-- An option that a tool knows: its letter, its long name, and whether it has a value. -/
structure KnownOption where
  letter : Char
  name : String
  hasValue : Bool

/-- The options that were given with their values, in order, and the operands. -/
structure Given where
  options : List (Char × String)
  operands : List String

namespace Given

variable (given : Given)

def has (letter : Char) : Bool :=
  given.options.any fun option => option.1 == letter

def value? (letter : Char) : Option String :=
  (given.options.reverse.find? fun option => option.1 == letter).map Prod.snd

def values (letter : Char) : List String :=
  (given.options.filter fun option => option.1 == letter).map Prod.snd

def withOption (letter : Char) (value : String) : Given :=
  { given with options := (letter, value) :: given.options }

def withOperand (operand : String) : Given :=
  { given with operands := operand :: given.operands }

end Given

structure Usage where
  tool : String
  status : Nat
  known : List KnownOption
  mixes : Bool
  hints : List String

namespace Usage

variable (usage : Usage)

def refuse {α : Type} (complaint : String) : Chore α := do
  Chore.say (usage.tool ++ ": " ++ complaint)
  Chore.forEach Chore.say usage.hints
  throw usage.status

def long (name : String) : Option KnownOption :=
  match usage.known.find? fun option => option.name == name with
  | some option => some option
  | none =>
      match usage.known.filter fun option => option.name.startsWith name with
      | [option] => some option
      | _ => none

/-- The options in a word of letters, the value of the last one that has one, and whether that
value is still to come. -/
def letters : List Char → Chore (List (Char × String) × Option Char)
  | [] => return ([], none)
  | letter :: rest => do
      match usage.known.find? fun option => option.letter == letter with
      | none => usage.refuse ("invalid option -- '" ++ letter.toString ++ "'")
      | some option =>
          if !option.hasValue then
            let (others, awaited) ← letters rest
            return ((letter, "") :: others, awaited)
          else if rest.isEmpty then return ([], some letter)
          else return ([(letter, String.ofList rest)], none)

def read : List String → Chore Given
  | [] => return ⟨[], []⟩
  | "--" :: rest => return ⟨[], rest⟩
  | "-" :: rest => do
      if usage.mixes then return (← read rest).withOperand "-" else return ⟨[], "-" :: rest⟩
  | word :: rest => do
      if word.startsWith "--" then
        let text := word.toList.drop 2
        let name := String.ofList (text.takeWhile (· != '='))
        match usage.long name with
        | none => usage.refuse ("unrecognized option '--" ++ name ++ "'")
        | some option =>
            if text.contains '=' then
              return (← read rest).withOption option.letter
                (String.ofList (text.drop (name.length + 1)))
            else if option.hasValue then
              match rest with
              | value :: others => return (← read others).withOption option.letter value
              | [] => usage.refuse ("option '--" ++ option.name ++ "' requires an argument")
            else return (← read rest).withOption option.letter ""
      else if word.startsWith "-" then
        let (found, awaited) ← usage.letters (word.toList.drop 1)
        match awaited with
        | none =>
            let later ← read rest
            return { later with options := found ++ later.options }
        | some letter =>
            match rest with
            | value :: others =>
                let later ← read others
                return { later with options := found ++ (letter, value) :: later.options }
            | [] => usage.refuse ("option requires an argument -- '" ++ letter.toString ++ "'")
      else if usage.mixes then return (← read rest).withOperand word
      else return ⟨[], word :: rest⟩

end Usage

/-- Options without a long name, from their letters; a colon stands behind those with a value. -/
def shortOptions : List Char → List KnownOption
  | [] => []
  | letter :: ':' :: rest => ⟨letter, "", true⟩ :: shortOptions rest
  | letter :: rest => ⟨letter, "", false⟩ :: shortOptions rest

def KnownOption.named (names : List (Char × String)) (option : KnownOption) : KnownOption :=
  { option with name := (names.lookup option.letter).getD option.name }

/-- The usage of a tool from the letters of its options and the long names of some. -/
def usageOf (tool : String) (status : Nat) (letters : String) (names : List (Char × String)) :
    Usage :=
  { tool
    status
    known := (shortOptions letters.toList).map (KnownOption.named names)
    mixes := true
    hints := ["Try '" ++ tool ++ " --help' for more information."] }

end CircuitDiagram.Shell
