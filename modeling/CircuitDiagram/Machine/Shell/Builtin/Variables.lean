import CircuitDiagram.Machine.Shell.Launcher

/-!
Commands of the shell for its variables, arguments and options.
-/

namespace CircuitDiagram.Shell.Builtin

open Work

/-- The options before the operands of a command; those of some letters have a value. -/
def readOptions (letters valued : List Char) :
    List String → Work (List (Char × String) × List String)
  | [] => return ([], [])
  | "--" :: rest => return ([], rest)
  | word :: rest => do
      match word.toList with
      | '-' :: letter :: others =>
          let (found, awaited) ← fromLetters (letter :: others)
          match awaited with
          | none => do
              let (later, operands) ← readOptions letters valued rest
              return (found ++ later, operands)
          | some option =>
              match rest with
              | value :: behind => do
                  let (later, operands) ← readOptions letters valued behind
                  return (found ++ (option, value) :: later, operands)
              | [] => refuse ("No arg for -" ++ option.toString ++ " option")
      | _ => return ([], word :: rest)
where
  fromLetters : List Char → Work (List (Char × String) × Option Char)
    | [] => return ([], none)
    | letter :: rest => do
        if valued.contains letter then
          if rest.isEmpty then return ([], some letter)
          else return ([(letter, String.ofList rest)], none)
        else if letters.contains letter then
          let (others, awaited) ← fromLetters rest
          return ((letter, "") :: others, awaited)
        else refuse ("Illegal option -" ++ letter.toString)

def wholeNumber (word : String) : Work Nat := do
  match word.toNat? with
  | some number => return number
  | none => refuse ("Illegal number: " ++ word)

def singleQuoted (text : String) : String :=
  let isQuote (character : Char) : Bool := character == '\''
  let runs := text.toList.splitBy fun left right => isQuote left == isQuote right
  let quoted := runs.map fun run =>
    if run.head?.any isQuote then "\"" ++ String.ofList run ++ "\""
    else "'" ++ String.ofList run ++ "'"
  (if text.toList.head?.all isQuote then "''" else "") ++ String.join quoted

def showVariables (lead : String) (wanted : Variable → Bool) : Work Unit := do
  let state ← get
  let shown := (state.bindings.filter fun entry => wanted entry.2).mergeSort
    fun left right => decide (left.1 ≤ right.1)
  shown.forM fun (name, found) =>
    match found.value with
    | some value => print (lead ++ name ++ "=" ++ singleQuoted value ++ "\n")
    | none => if lead.isEmpty then return else print (lead ++ name ++ "\n")
  succeed

/-- Gives a variable what a word says, a value or not, and then changes it. -/
def declare (change : Variable → Variable) (word : String) : Work Unit := do
  let name := String.ofList (word.toList.takeWhile (· != '='))
  if !isName name then refuse (name ++ ": bad variable name")
  else
    if word.toList.contains '=' then
      assign name (String.ofList (word.toList.drop (name.length + 1)))
    modify fun state =>
      state.putVariable name (change ((state.binding? name).getD ⟨none, false, false⟩))

def declareEach (lead : String) (wanted : Variable → Bool) (change : Variable → Variable)
    (words : List String) : Work Unit := do
  let (_, operands) ← readOptions ['p'] [] words
  if operands.isEmpty then showVariables lead wanted
  else
    operands.forM (declare change)
    succeed

def exportVariables (words : List String) : Work Unit :=
  declareEach "export " Variable.exported (fun found => { found with exported := true }) words

def guardVariables (words : List String) : Work Unit :=
  declareEach "readonly " Variable.readOnly (fun found => { found with readOnly := true }) words

def unsetVariables (words : List String) : Work Unit := do
  let (found, operands) ← readOptions ['f', 'v'] [] words
  if (found.getLast?.map Prod.fst) == some 'f' then
    modify fun state =>
      { state with
        functions := state.functions.filter fun entry => !operands.contains entry.1 }
  else operands.forM dropOne
  succeed
where
  dropOne (name : String) : Work Unit := do
    if !isName name then refuse (name ++ ": bad variable name")
    else
      match (← get).binding? name with
      | some ⟨_, _, true⟩ => refuse (name ++ ": is read only")
      | _ => modify fun state => state.dropVariable name

/-- Keeps the value that a variable has outside of the function that runs. -/
def makeLocal (word : String) : Work Unit := do
  let name := String.ofList (word.toList.takeWhile (· != '='))
  let state ← get
  match state.locals with
  | none => refuse "not in a function"
  | some kept => do
      if name == "-" then return
      if !(kept.any fun entry => entry.1 == name) then
        set { state with locals := some ((name, state.binding? name) :: kept) }
      if word.toList.contains '=' then declare (fun found => found) word

def localVariables (words : List String) : Work Unit := do
  if (← get).locals.isNone then refuse "not in a function"
  else
    words.forM makeLocal
    succeed

def optionLines (named : Bool) (state : State) : List String :=
  let isOn (letter : Char) : Bool := state.hasOption letter
  let all := longOptions.map (fun (name, letter) => (name, isOn letter)) ++
    [("nolog", false), ("debug", false)]
  if named then
    "Current option settings" :: all.map fun (name, on) =>
      name ++ String.ofList (List.replicate (16 - name.length) ' ') ++ (if on then "on" else "off")
  else all.map fun (name, on) => "set " ++ (if on then "-o " else "+o ") ++ name

/-- The words of `set`: options, and behind them arguments for the script. -/
def setWords : List String → Work Unit
  | [] => return
  | "-" :: rest => do
      switchOption false 'x'
      switchOption false 'v'
      if !rest.isEmpty then modify fun state => { state with arguments := rest }
  | "--" :: rest => modify fun state => { state with arguments := rest }
  | word :: rest => do
      if !(word.startsWith "-" || word.startsWith "+") then
        modify fun state => { state with arguments := word :: rest }
      else
        let on := word.startsWith "-"
        let letters := word.toList.drop 1
        switchLetters on (letters.filter (· != 'o'))
        if letters.contains 'o' then
          match rest with
          | [] => do
              (optionLines on (← get)).forM fun line => print (line ++ "\n")
          | name :: others => do
              switchNamed on name
              setWords others
        else setWords rest

def setOptions (words : List String) : Work Unit := do
  if words.isEmpty then showVariables "" fun _ => true
  else
    setWords words
    succeed

def shiftArguments (words : List String) : Work Unit := do
  let count ← match words with
    | [] => pure 1
    | word :: _ => wholeNumber word
  let state ← get
  if state.arguments.length < count then refuse "can't shift that many"
  else
    set { state with arguments := state.arguments.drop count }
    succeed

/-- What a line from the input comes to: its characters and whether each was quoted, how many
bytes it takes, and whether it is complete. -/
structure InputLine where
  text : Field
  taken : Nat
  complete : Bool

def InputLine.push (line : InputLine) (count : Nat) (characters : Field) : InputLine :=
  { line with text := characters ++ line.text, taken := line.taken + count }

/-- Reads a line, where a backslash quotes the character behind it or joins lines. -/
def inputLine (raw : Bool) : List Char → InputLine
  | [] => ⟨[], 0, false⟩
  | '\n' :: _ => ⟨[], 1, true⟩
  | '\\' :: rest =>
      if raw then (inputLine raw rest).push 1 [('\\', false)]
      else
        match rest with
        | [] => ⟨[], 1, false⟩
        | '\n' :: others => (inputLine raw others).push 2 []
        | character :: others => (inputLine raw others).push 2 [(character, true)]
  | character :: rest =>
      (inputLine raw rest).push 1 (if character = '\x00' then [] else [(character, false)])

structure Cutting where
  separators : List Char

namespace Cutting

variable (cutting : Cutting)

def isSeparator (entry : Char × Bool) : Bool :=
  !entry.2 && cutting.separators.contains entry.1

def isBlank (entry : Char × Bool) : Bool :=
  cutting.isSeparator entry && isBlankSeparator entry.1

def withoutBlanks (field : Field) : Field :=
  field.dropWhile cutting.isBlank

/-- The value that takes all that is left: a single field without the separator behind it, or
all of several. -/
def rest (field : Field) : Field :=
  let behind := field.dropWhile fun entry => !cutting.isSeparator entry
  let marks := behind.filter fun entry => !cutting.isBlank entry
  if behind.all cutting.isSeparator && marks.length ≤ 1 then
    field.takeWhile fun entry => !cutting.isSeparator entry
  else (cutting.withoutBlanks field.reverse).reverse

def beyond (field : Field) : Field :=
  let behind := cutting.withoutBlanks (field.dropWhile fun entry => !cutting.isSeparator entry)
  match behind with
  | entry :: others => if cutting.isSeparator entry then cutting.withoutBlanks others else behind
  | [] => []

/-- Gives the fields of a line to variables; the last one takes all that is left. -/
def give : List String → Field → Work Unit
  | [], _ => return
  | [name], field => assign name (cutting.rest field).text
  | name :: others, field => do
      assign name (Field.text (field.takeWhile fun entry => !cutting.isSeparator entry))
      give others (cutting.beyond field)

end Cutting

def readVariables (words : List String) : Work Unit := do
  let (found, names) ← readOptions ['r'] ['p'] words
  if names.isEmpty then refuse "arg count"
  else
    let bytes := match ← unread inputStream with
      | .ok bytes => bytes
      | .error _ => []
    let raw := found.any fun option => option.1 == 'r'
    let line := inputLine raw (textOfBytes bytes).toList
    pass inputStream line.taken
    let cutting : Cutting := ⟨(← get).separators⟩
    match names.find? fun name => !isName name with
    | some name => refuse (name ++ ": bad variable name")
    | none => do
        cutting.give names (cutting.withoutBlanks line.text)
        setStatus (if line.complete then 0 else 1)

/-- What `getopts` has found: the option that is told, its value, the word that comes next, how
far it is within a word, and a complaint. -/
structure OptionFound where
  name : String
  value : Option String
  next : Nat
  place : Nat
  complaint : Option String

inductive OptionKind where
  | unknown
  | plain
  | valued
  deriving DecidableEq, Repr

def optionKind (known : List Char) (letter : Char) : OptionKind :=
  match known.dropWhile (· != letter) with
  | [] => .unknown
  | _ :: ':' :: _ => if letter = ':' then .unknown else .valued
  | _ => if letter = ':' then .unknown else .plain

/-- The option that comes next among some words; none if there is none. -/
def nextOption (known : String) (words : List String) (index place : Nat) :
    Option OptionFound × Nat :=
  let current := (words.drop (index - 2)).headD ""
  let within := if index ≤ 1 || place = 0 || current.length < place then [] else
    current.toList.drop place
  let quiet := known.startsWith ":"
  let tell (letters : List Char) (next place : Nat) : Option OptionFound × Nat :=
    match letters with
    | [] => (none, next)
    | letter :: rest =>
        let text := letter.toString
        match optionKind known.toList letter with
        | .unknown =>
            (some ⟨"?", if quiet then some text else none, next,
              if rest.isEmpty then 0 else place + 1,
              if quiet then none else some ("Illegal option -" ++ text)⟩, next)
        | .plain =>
            (some ⟨text, some "", next, if rest.isEmpty then 0 else place + 1, none⟩, next)
        | .valued =>
            if !rest.isEmpty then (some ⟨text, some (String.ofList rest), next, 0, none⟩, next)
            else
              match words.drop (next - 1) with
              | value :: _ => (some ⟨text, some value, next + 1, 0, none⟩, next + 1)
              | [] =>
                  (some ⟨if quiet then ":" else "?", if quiet then some text else none, next, 0,
                    if quiet then none else some ("No arg for -" ++ text ++ " option")⟩, next)
  if !within.isEmpty then tell within index place
  else
    match words.drop (index - 1) with
    | [] => (none, index)
    | "--" :: _ => (none, index + 1)
    | word :: _ =>
        match word.toList with
        | '-' :: letter :: rest => tell (letter :: rest) (index + 1) 1
        | _ => (none, index)

def nextGivenOption (words : List String) : Work Unit := do
  match words with
  | known :: name :: others => do
      let state ← get
      let arguments := if others.isEmpty then state.arguments else others
      let index := ((state.value? "OPTIND").bind String.toNat?).getD 1
      let (found, next) :=
        nextOption known arguments (if index = 0 then 1 else index) state.optionPlace
      match found.bind OptionFound.complaint with
      | some complaint => say complaint
      | none => pure ()
      match found with
      | some option =>
          match option.value with
          | some value => assign "OPTARG" value
          | none => modify fun state => state.dropVariable "OPTARG"
      | none => pure ()
      assign "OPTIND" (toString ((found.map OptionFound.next).getD next))
      assign name ((found.map OptionFound.name).getD "?")
      modify fun state => { state with optionPlace := (found.map OptionFound.place).getD 0 }
      setStatus (if found.isSome then 0 else 1)
  | _ => refuse "Usage: getopts optstring var [arg...]"

end CircuitDiagram.Shell.Builtin
