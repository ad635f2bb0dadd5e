import CircuitDiagram.CommandLine.Choice

/-!
The words of a command line. Options that take a value have it attached or as the next word; no
option may come twice, and one word may name the input. Reading stops at the first word that is
wrong, or asks for help.
-/

namespace CircuitDiagram.CommandLine

inductive Setting where
  | directory
  | format
  | program
  | naming
  deriving DecidableEq, Repr

inductive Switch where
  | keepSource
  | noEdgeLabels
  | printDot
  | help
  deriving DecidableEq, Repr

inductive Refusal where
  | usage
  | help
  deriving DecidableEq, Repr

structure Given where
  input : Option String
  directory : Option String
  format : Option Format
  program : Option String
  naming : Option Naming
  keepSource : Bool
  noEdgeLabels : Bool
  printDot : Bool
  deriving DecidableEq, Repr

def Given.nothing : Given :=
  ⟨none, none, none, none, none, false, false, false⟩

def longOption? : String → Option (Setting ⊕ Switch)
  | "output-dir" => some (.inl .directory)
  | "format" => some (.inl .format)
  | "dot-bin" => some (.inl .program)
  | "name-by" => some (.inl .naming)
  | "keep-source" => some (.inr .keepSource)
  | "no-edge-labels" => some (.inr .noEdgeLabels)
  | "print-dot" => some (.inr .printDot)
  | "help" => some (.inr .help)
  | _ => none

def shortOption? : Char → Option (Setting ⊕ Switch)
  | 'o' => some (.inl .directory)
  | 'T' => some (.inl .format)
  | 'h' => some (.inr .help)
  | _ => none

namespace Given

variable (given : Given)

/-- Takes the value of an option. A path may not be empty, and a choice has to be one. -/
def set (setting : Setting) (value : String) : Except Refusal Given :=
  match setting with
  | .directory =>
      if given.directory.isSome || value.isEmpty then .error .usage
      else .ok { given with directory := some value }
  | .format =>
      match choice? false Format.words value with
      | none => .error .usage
      | some format =>
          if given.format.isSome then .error .usage
          else .ok { given with format := some format }
  | .program =>
      if given.program.isSome then .error .usage else .ok { given with program := some value }
  | .naming =>
      match choice? false Naming.words value with
      | none => .error .usage
      | some naming =>
          if given.naming.isSome then .error .usage
          else .ok { given with naming := some naming }

def turnOn (switch : Switch) : Except Refusal Given :=
  match switch with
  | .keepSource =>
      if given.keepSource then .error .usage else .ok { given with keepSource := true }
  | .noEdgeLabels =>
      if given.noEdgeLabels then .error .usage else .ok { given with noEdgeLabels := true }
  | .printDot =>
      if given.printDot then .error .usage else .ok { given with printDot := true }
  | .help => .error .help

def setInput (word : String) : Except Refusal Given :=
  if given.input.isSome || word.isEmpty then .error .usage
  else .ok { given with input := some word }

end Given

/-- What a word is by its looks, before the first double dash. -/
inductive Word where
  | separator
  | long (name : String) (value : Option String)
  | short (letter : Char) (rest : String)
  | plain
  deriving DecidableEq, Repr

def withoutEquals (text : List Char) : List Char :=
  match text with
  | '=' :: rest => rest
  | _ => text

def Word.of (word : String) : Word :=
  match word.toList with
  | ['-', '-'] => .separator
  | '-' :: '-' :: rest =>
      let name := rest.takeWhile (· != '=')
      match rest.dropWhile (· != '=') with
      | [] => .long (String.ofList name) none
      | _ :: value => .long (String.ofList name) (some (String.ofList value))
  | '-' :: letter :: rest => .short letter (String.ofList rest)
  | _ => .plain

def readOption (given : Given) : Option (Setting ⊕ Switch) → Option String →
    Except Refusal (Given × Option Setting)
  | none, _ => .error .usage
  | some (.inl setting), some value =>
      match given.set setting value with
      | .error refusal => .error refusal
      | .ok more => .ok (more, none)
  | some (.inl setting), none => .ok (given, some setting)
  | some (.inr _), some _ => .error .usage
  | some (.inr switch), none =>
      match given.turnOn switch with
      | .error refusal => .error refusal
      | .ok more => .ok (more, none)

def attached (rest : String) : Option String :=
  if rest.isEmpty then none else some (String.ofList (withoutEquals rest.toList))

/-- A short option that takes no value may be followed by others in its word. -/
def readShort (given : Given) (letter : Char) (rest : String) :
    Except Refusal (Given × Option Setting) :=
  match shortOption? letter with
  | some (.inr switch) => readOption given (some (.inr switch)) none
  -- The rest of the word is the value, with or without an equals sign.
  | option => readOption given option (attached rest)

def readInputs (given : Given) : List String → Except Refusal Given
  | [] => .ok given
  | word :: rest =>
      match given.setInput word with
      | .error refusal => .error refusal
      | .ok more => readInputs more rest

def readWords (given : Given) (waiting : Option Setting) :
    List String → Except Refusal Given
  | [] => if waiting.isSome then .error .usage else .ok given
  | word :: rest =>
      match Word.of word, waiting with
      | .plain, some setting =>
          match given.set setting word with
          | .error refusal => .error refusal
          | .ok more => readWords more none rest
      -- What looks like an option is never the value of another one.
      | _, some _ => .error .usage
      | .separator, none => readInputs given rest
      | .plain, none =>
          match given.setInput word with
          | .error refusal => .error refusal
          | .ok more => readWords more none rest
      | .long name value, none =>
          match readOption given (longOption? name) value with
          | .error refusal => .error refusal
          | .ok (more, next) => readWords more next rest
      | .short letter attachment, none =>
          match readShort given letter attachment with
          | .error refusal => .error refusal
          | .ok (more, next) => readWords more next rest

structure Options where
  input : Option String
  directory : String
  format : Format
  program : String
  keepSource : Bool
  naming : Naming
  edgeLabels : Bool
  printDot : Bool
  deriving DecidableEq, Repr

def standardDirectory : String := "."
def standardProgram : String := "dot"

def Given.options (given : Given) : Options :=
  { input := given.input
    directory := given.directory.getD standardDirectory
    format := given.format.getD .standard
    program := given.program.getD standardProgram
    keepSource := given.keepSource
    naming := given.naming.getD .standard
    edgeLabels := !given.noEdgeLabels
    printDot := given.printDot }

def environmentValue? (environment : List (String × String)) (name : String) : Option String :=
  match environment.lookup name with
  | some value => if value.isEmpty then none else some value
  | none => none

/-- Variables have the last word on the program and the directory. -/
def Options.override (options : Options) (environment : List (String × String)) : Options :=
  { options with
    program := (environmentValue? environment "CIRCUIT_VIS_DOT").getD options.program
    directory := (environmentValue? environment "CIRCUIT_VIS_OUTPUT_DIR").getD options.directory }

def readOptions (arguments : List String) (environment : List (String × String)) :
    Except Refusal Options :=
  match readWords .nothing none arguments with
  | .error refusal => .error refusal
  | .ok given => .ok (given.options.override environment)

end CircuitDiagram.CommandLine
