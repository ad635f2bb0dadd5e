import CircuitDiagram.Machine.Shell.Tool.Editor.Script
import CircuitDiagram.Machine.Shell.Tool.Lines

/-!
The line editor. Each line of its input goes through the commands of a script and is printed
behind them; a second text is kept from line to line.
-/

namespace CircuitDiagram.Shell.Tool

open Chore

namespace Editor

structure Line where
  text : String
  ended : Bool

def Line.joined (first : Line) (stop : Char) (second : Line) : Line :=
  ⟨first.text ++ stop.toString ++ second.text, second.ended⟩

inductive RangeState where
  | outside
  /-- Within the range, which ends at a line with this number if that is known. -/
  | inside (last : Option Nat)
  | closed
  deriving DecidableEq, Repr

inductive Pending where
  | text (text : String)
  | file (path : String)

inductive Sheet where
  | output
  | error
  | file (path : String)
  deriving DecidableEq, Repr

/-- What has been printed to a sheet, the last first, and whether a line end is owed. -/
structure Printed where
  chunks : List (List UInt8)
  owes : Bool

structure Editing where
  input : List Line
  line : Line
  hold : Line
  number : Nat
  pending : List Pending
  changed : Bool
  ranges : List (Nat × RangeState)
  lastRegex : Option Regex
  sheets : List (Sheet × Printed)
  stop : Char

inductive Outcome where
  | done
  | dropped
  | again
  | exhausted
  | quit (silent : Bool) (status : Nat)
  | lost

abbrev Work := StateM Editing

def emitTo (sheet : Sheet) (text : String) (ends : Bool) : Work Unit := do
  let editing ← get
  let old := (editing.sheets.lookup sheet).getD ⟨[], false⟩
  let stop := bytesOfText editing.stop.toString
  let chunk := (if old.owes then stop else []) ++ bytesOfText text ++
    (if ends then stop else [])
  set { editing with
    sheets := (sheet, ⟨chunk :: old.chunks, !ends⟩) ::
      editing.sheets.filter fun entry => entry.1 != sheet }

def emit (text : String) (ends : Bool) : Work Unit :=
  emitTo .output text ends

def emitWhole (text : String) : Work Unit :=
  if text.isEmpty then return
  else emit (String.ofList text.toList.dropLast) true

def printLine : Work Unit := do
  let line := (← get).line
  emit line.text line.ended

def sheetFor (path : String) : Sheet :=
  if path == "/dev/stdout" then .output
  else if path == "/dev/stderr" then .error
  else .file path

def settle : Work Unit := do
  let editing ← get
  match editing.sheets.lookup .output with
  | some ⟨_, true⟩ => emitTo .output "" false
  | _ => return
  modify fun editing =>
    { editing with
      sheets := editing.sheets.map fun (sheet, printed) =>
        if sheet = .output then (sheet, { printed with owes := false }) else (sheet, printed) }

def flush (files : FileSystem) : Work Unit := do
  let pending := (← get).pending
  modify fun editing => { editing with pending := [] }
  if !pending.isEmpty then settle
  for item in pending do
    match item with
    | .text text => emitWhole text
    | .file path =>
        match files.readFile (nameOfText path) with
        | .ok bytes =>
            let text := textOfBytes bytes
            if text.endsWith "\n" then emitWhole text
            else if text.isEmpty then pure ()
            else emit text false
        | .error _ => pure ()

/-- Goes on to the next line, which stands behind what is kept of this one. -/
def advance (kept : Option String) : Work Bool := do
  let editing ← get
  match editing.input with
  | [] => return false
  | line :: rest => do
      let text := match kept with
        | some before => before ++ editing.stop.toString ++ line.text
        | none => line.text
      set { editing with
        input := rest, line := ⟨text, line.ended⟩, number := editing.number + 1 }
      return true

def isLast : Work Bool := do
  return (← get).input.isEmpty

def regexFor (regex : Option Regex) : Work (Option Regex) := do
  match regex with
  | some found => do
      modify fun editing => { editing with lastRegex := some found }
      return some found
  | none => return (← get).lastRegex

def fits (address : Address) : Work Bool := do
  let editing ← get
  match address with
  | .line number => return editing.number = number
  | .every first step =>
      return first ≤ editing.number && (editing.number - first) % step = 0
  | .last => isLast
  | .having regex manner => do
      match ← regexFor regex with
      | some found => return Regex.isIn manner found (← get).line.text
      | none => return false
  | .further _ => return false
  | .multiple _ => return false

def setRange (place : Nat) (range : RangeState) : Work Unit :=
  modify fun editing =>
    { editing with
      ranges := (place, range) :: editing.ranges.filter fun entry => entry.1 != place }

/-- Whether a line number has come that a range begins with; it may have been passed. -/
def begins (first : Address) : Work Bool := do
  match first with
  | .line number => return number ≤ (← get).number
  | _ => fits first

def beginRange (place : Nat) (first second : Address) : Work Bool := do
  let number := (← get).number
  let isNumber := match first with
    | .line _ => true
    | _ => false
  let isFirst := match first with
    | .line start => start = number
    | _ => true
  let upTo (last : Nat) : Work Bool := do
    if number < last then setRange place (.inside (some last))
    else if isNumber then setRange place .closed
    return isFirst || number ≤ last
  match second with
  | .line last => upTo last
  | .further lines => upTo (number + lines)
  | .multiple factor => upTo (if factor = 0 then number else (number / factor + 1) * factor)
  | .last => do
      if !(← isLast) then setRange place (.inside none)
      return true
  | _ => do
      setRange place (.inside none)
      return true

def enterRange (place : Nat) (first second : Address) : Work Bool := do
  if Reading.isZero (some first) && (← get).number = 1 then
    if ← fits second then setRange place .closed else setRange place (.inside none)
    return true
  else if ← begins first then beginRange place first second
  else return false

def isIn (place : Nat) (scope : Scope) : Work Bool := do
  let found ← match scope.first, scope.second with
    | none, _ => pure true
    | some first, none => fits first
    | some first, some second => do
        let editing ← get
        let ended := match first with
          | .line _ => RangeState.closed
          | _ => .outside
        match (editing.ranges.lookup place).getD .outside with
        | .closed => pure false
        | .outside => enterRange place first second
        | .inside (some last) =>
            if last < editing.number then do
              setRange place .outside
              enterRange place first second
            else do
              if last = editing.number then setRange place ended
              pure true
        | .inside none => do
            if ← fits second then setRange place ended
            pure true
  return found != scope.negated

/-- How the characters of a replacement are cased: up to the next change, and the next one. -/
structure Case where
  all : Casing
  one : Casing

def Case.apply (cased : Case) (text : List Char) : List Char × Case :=
  let whole := text.map fun character =>
    match cased.all with
    | .upper => character.toUpper
    | .lower => character.toLower
    | _ => character
  match whole with
  | [] => ([], cased)
  | first :: rest =>
      match cased.one with
      | .upperOne => (first.toUpper :: rest, { cased with one := .plain })
      | .lowerOne => (first.toLower :: rest, { cased with one := .plain })
      | _ => (whole, cased)

def replacementFor (found : Regex.Found) : Case → List ReplacementPart → List Char
  | _, [] => []
  | cased, .casing casing :: rest =>
      match casing with
      | .upperOne => replacementFor found { cased with one := casing } rest
      | .lowerOne => replacementFor found { cased with one := casing } rest
      | _ => replacementFor found ⟨casing, .plain⟩ rest
  | cased, .character character :: rest =>
      let (text, after) := cased.apply [character]
      text ++ replacementFor found after rest
  | cased, .group index :: rest =>
      let (text, after) := cased.apply (found.group index)
      text ++ replacementFor found after rest

/-- The text behind a spot with matches replaced, from the one with number `wanted` on; the first
match that is looked for has number `number`. An empty match right behind another one does not
count. -/
def replaceFrom (substitution : Substitution) (regex : Regex) :
    (fuel : Nat) → (number : Nat) → (behindMatch : Bool) → Regex.Spot → List Char × Bool
  | 0, _, _, spot => (spot.after, false)
  | fuel + 1, number, behindMatch, spot =>
      match Regex.find substitution.manner regex spot with
      | none => (spot.after, false)
      | some found =>
          let passed := Regex.between spot found.start
          let isEmpty := found.text.isEmpty
          let goOn (number : Nat) : List Char × Bool :=
            match isEmpty, found.stop.after with
            | true, [] => ([], false)
            | true, character :: _ =>
                let (rest, changed) := replaceFrom substitution regex fuel number false
                  found.stop.forward
                (character :: rest, changed)
            | false, _ => replaceFrom substitution regex fuel number true found.stop
          if isEmpty && behindMatch && passed.isEmpty then
            let (rest, changed) := goOn number
            (rest, changed)
          else
            let wanted := if substitution.number = 0 then 1 else substitution.number
            if number < wanted then
              let (rest, changed) := goOn (number + 1)
              (passed ++ found.text ++ rest, changed)
            else
              let shown := replacementFor found ⟨.plain, .plain⟩ substitution.replacement
              if substitution.all then
                (passed ++ shown ++ (goOn (number + 1)).1, true)
              else (passed ++ shown ++ found.stop.after, true)

def setText (text : String) : Work Unit :=
  modify fun editing => { editing with line := { editing.line with text } }

/-- Replaces matches in the line; tells whether there was an expression to look for. -/
def substitute (substitution : Substitution) : Work Bool := do
  match ← regexFor substitution.regex with
  | none => return false
  | some regex => do
      let line := (← get).line
      let (text, changed) := replaceFrom substitution regex (line.text.length + 2) 1 false
        (Regex.spotAt line.text)
      if changed then
        setText (String.ofList text)
        modify fun editing => { editing with changed := true }
        if substitution.prints then printLine
        match substitution.path with
        | none => return true
        | some path => do
            emitTo (sheetFor path) (String.ofList text) line.ended
            return true
      else return true

def listed (character : Char) : String :=
  match [('\\', "\\\\"), ('\x07', "\\a"), ('\x08', "\\b"), ('\x0c', "\\f"), ('\n', "\\n"),
      ('\r', "\\r"), ('\t', "\\t"), ('\x0b', "\\v")].lookup character with
  | some text => text
  | none =>
      if ' ' ≤ character ∧ character ≤ '~' then character.toString
      else
        let digits := Nat.toDigits 8 character.toNat
        "\\" ++ Decimal.zeros (3 - digits.length) ++ String.ofList digits

/-- Lines of at most sixty-nine characters, each but the last with a backslash behind it. -/
def listedLines (width : Nat) (line : String) : List String → List String
  | [] => [line ++ "$"]
  | item :: rest =>
      if width < line.length + item.length then
        (line ++ "\\") :: listedLines width item rest
      else listedLines width (line ++ item) rest

def firstLine (text : String) : String :=
  String.ofList (text.toList.takeWhile (· != '\n'))

def behindFirstLine? (text : String) : Option String :=
  match text.toList.dropWhile (· != '\n') with
  | [] => none
  | _ :: rest => some (String.ofList rest)

/-- What becomes of a command: the place to go on at, or how the commands end. -/
abbrev Step := Work (Except Outcome Nat)

def nextLine (silent : Bool) (files : FileSystem) (kept : Option String) (place : Nat) : Step := do
  if ← isLast then return .error .exhausted
  else do
    if kept.isNone && !silent then printLine
    flush files
    let _ ← advance kept
    return .ok place

def plainStep (silent : Bool) (files : FileSystem) (path : String) (next : Nat) (letter : Char) :
    Step := do
  let editing ← get
  let text := editing.line.text
  match letter with
  | '=' => do
      emit (toString editing.number) true
      return .ok next
  | 'd' => return .error .dropped
  | 'D' =>
      match behindFirstLine? text with
      | none => return .error .dropped
      | some rest => do
          setText rest
          return .error .again
  | 'p' => do
      printLine
      return .ok next
  | 'P' => do
      emit (firstLine text) true
      return .ok next
  | 'n' => nextLine silent files none next
  | 'N' => nextLine silent files (some text) next
  | 'g' => do
      set { editing with line := editing.hold }
      return .ok next
  | 'G' => do
      set { editing with line := editing.line.joined editing.stop editing.hold }
      return .ok next
  | 'h' => do
      set { editing with hold := editing.line }
      return .ok next
  | 'H' => do
      set { editing with hold := editing.hold.joined editing.stop editing.line }
      return .ok next
  | 'x' => do
      set { editing with hold := editing.line, line := editing.hold }
      return .ok next
  | 'z' => do
      setText ""
      return .ok next
  | 'F' => do
      emit path true
      return .ok next
  | _ => do
      for line in listedLines 69 "" (text.toList.map listed) do
        emit line true
      return .ok next

def jumpTo (instructions : Array Instruction) (name : String) : Nat :=
  (labelPlace? instructions name).getD instructions.size

def perform (instructions : Array Instruction) (silent : Bool) (files : FileSystem)
    (path : String) (place : Nat) (instruction : Instruction) : Step := do
  let next := place + 1
  match instruction.action with
  | .substitute substitution =>
      return if ← substitute substitution then .ok next else .error .lost
  | .exchange pairs => do
      let text := (← get).line.text
      setText (String.ofList (text.toList.map fun character =>
        (pairs.lookup character).getD character))
      return .ok next
  | .insert text => do
      emitWhole text
      return .ok next
  | .append text => do
      modify fun editing => { editing with pending := editing.pending ++ [.text text] }
      return .ok next
  | .change text => do
      match (← get).ranges.lookup place with
      | some (.inside _) => if instruction.scope.negated then emitWhole text
      | _ => emitWhole text
      return .error .dropped
  | .jump label => return .ok (jumpTo instructions label)
  | .jumpIfChanged label =>
      if (← get).changed then
        modify fun editing => { editing with changed := false }
        return .ok (jumpTo instructions label)
      else return .ok next
  | .jumpUnlessChanged label =>
      if (← get).changed then
        modify fun editing => { editing with changed := false }
        return .ok next
      else return .ok (jumpTo instructions label)
  | .label _ => return .ok next
  | .nothing => return .ok next
  | .skipTo target => return .ok target
  | .read file => do
      modify fun editing => { editing with pending := editing.pending ++ [.file file] }
      return .ok next
  | .write file => do
      let line := (← get).line
      emitTo (sheetFor file) line.text line.ended
      return .ok next
  | .quit quiet status => return .error (.quit quiet status)
  | .plain letter => plainStep silent files path next letter

def runFrom (instructions : Array Instruction) (silent : Bool) (files : FileSystem)
    (path : String) : (fuel : Nat) → (place : Nat) → Work Outcome
  | 0, _ => return .quit true 4
  | fuel + 1, place => do
      match instructions[place]? with
      | none => return .done
      | some instruction => do
          let applies ← isIn place instruction.scope
          if !applies then runFrom instructions silent files path fuel (place + 1)
          else
            match ← perform instructions silent files path place instruction with
            | .ok next => runFrom instructions silent files path fuel next
            | .error outcome => return outcome

def longestRun : Nat := 1000000

/-- Goes through all lines; `fuel` bounds how often. Tells the status, or that an expression was
lost. -/
def editFrom (instructions : Array Instruction) (silent : Bool) (files : FileSystem)
    (path : String) : (fuel : Nat) → (fresh : Bool) → Work (Option Nat)
  | 0, _ => return some 0
  | fuel + 1, fresh => do
      let begun ← if fresh then advance none else pure true
      if !begun then return some 0
      else
        if fresh then modify fun editing => { editing with changed := false }
        let goOn (fresh : Bool) : Work (Option Nat) := do
          flush files
          editFrom instructions silent files path fuel fresh
        match ← runFrom instructions silent files path longestRun 0 with
        | .done => do
            if !silent then printLine
            goOn true
        | .dropped => goOn true
        | .again => goOn false
        | .lost => return none
        | .exhausted => do
            if !silent then printLine
            flush files
            return some 0
        | .quit quiet status => do
            if !quiet then
              if !silent then printLine
              settle
              flush files
            return some status

def linesIn (stop : Char) (bytes : List UInt8) : List Line :=
  let swap (byte : UInt8) : UInt8 :=
    if stop = '\n' then byte else if byte = 0 then lineFeed else if byte = lineFeed then 0 else byte
  let back (text : String) : String :=
    if stop = '\n' then text
    else String.ofList (text.toList.map fun character =>
      if character = '\x00' then '\n' else if character = '\n' then '\x00' else character)
  (linesOf (bytes.map swap)).map fun line =>
    ⟨back (textOfBytes (withoutLineEnd line)), line.getLast? == some lineFeed⟩

def start (input : List Line) (stop : Char) : Editing :=
  { input, stop
    line := ⟨"", true⟩
    hold := ⟨"", true⟩
    number := 0
    pending := []
    changed := false
    ranges := []
    lastRegex := none
    sheets := [] }

def printedOn (editing : Editing) (sheet : Sheet) : List UInt8 :=
  ((editing.sheets.lookup sheet).map fun printed => printed.chunks.reverse.flatten).getD []

def writtenPaths (instructions : Array Instruction) : List String :=
  instructions.toList.filterMap fun instruction =>
    match instruction.action with
    | .write path => some path
    | .substitute substitution => substitution.path
    | _ => none

end Editor

open Editor

def sedHints : List String :=
  ["Usage: sed [OPTION]... \x7bscript-only-if-no-other-script\x7d [input-file]..."]

def sedUsage : Usage :=
  { usageOf "sed" 1 "bnEe:f:il:rsuz" [('n', "quiet"), ('e', "expression"), ('f', "file"),
      ('E', "regexp-extended"), ('s', "separate"), ('z', "null-data"), ('u', "unbuffered")] with
    hints := sedHints }

/-- The suffix of an option for editing in place that is written together with it; such options
are told apart from the others. -/
def inPlaceOption? (word : String) : Option (List Char × String) :=
  let letters := word.toList.drop 1
  if word.startsWith "--in-place" then
    some ([], (word.drop 11).toString)
  else if word.startsWith "-" && !word.startsWith "--" then
    let before := letters.takeWhile fun letter => letter != 'i'
    if letters.contains 'i' && before.all fun letter => "nErsuz".toList.contains letter then
      some (before, String.ofList (letters.drop (before.length + 1)))
    else none
  else none

/-- Words without options for editing in place, and the suffix of the last of those. -/
def withoutInPlace : List String → List String × Option String
  | [] => ([], none)
  | "--" :: rest => ("--" :: rest, none)
  | "-e" :: script :: rest =>
      let (words, suffix) := withoutInPlace rest
      ("-e" :: script :: words, suffix)
  | "-f" :: path :: rest =>
      let (words, suffix) := withoutInPlace rest
      ("-f" :: path :: words, suffix)
  | word :: rest =>
      let (words, later) := withoutInPlace rest
      match inPlaceOption? word with
      | some ([], suffix) => (words, some (later.getD suffix))
      | some (letters, suffix) =>
          (String.ofList ('-' :: letters) :: words, some (later.getD suffix))
      | none => (word :: words, later)

/-- The texts of a script, each with what it is called in complaints. A text that ends with a
backslash goes on with the next one. -/
def scriptTexts : (number : Nat) → List (Char × String) → Chore (List (String × Bool × String))
  | _, [] => return []
  | number, ('e', text) :: rest => do
      let later ← scriptTexts (number + 1) rest
      match text.endsWith "\\", later with
      | true, (_, _, next) :: others =>
          return ("-e expression #" ++ toString number, false, text ++ "\n" ++ next) :: others
      | _, _ => return ("-e expression #" ++ toString number, false, text) :: later
  | number, (_, path) :: rest => do
      match ← contentOf path with
      | .error error => fail 4 ("sed: couldn't open file " ++ path ++ ": " ++ error.reason)
      | .ok bytes =>
          return ("file " ++ path, true, textOfBytes bytes) :: (← scriptTexts number rest)

def compile (notion : Regex.Notion) (isFirst : Bool) (sketch : Sketch) :
    List (String × Bool × String) → Chore Sketch
  | [] => return sketch
  | (name, byLines, text) :: rest => do
      match readText notion isFirst sketch text with
      | .ok next => compile notion false next rest
      | .error complaint =>
          fail 1 ("sed: " ++ name ++
            (if byLines then " line " ++ toString complaint.line
              else ", char " ++ toString complaint.place) ++ ": " ++ complaint.text)

def editorInput (stop : Char) (paths : List String) : Chore (List Editor.Line) := do
  match paths with
  | [] => return []
  | path :: rest => do
      let here ← match ← contentOf path with
        | .ok bytes => pure (linesIn stop bytes)
        | .error error =>
            if error = .isDirectory then
              fail 4 ("sed: read error on " ++ path ++ ": " ++ error.reason)
            else do
              note 2 ("sed: can't read " ++ path ++ ": " ++ error.reason)
              pure []
      return here ++ (← editorInput stop rest)

/-- Runs a script on lines; gives its output, its status and how many lines it left. -/
def edit (sketch : Sketch) (silent : Bool) (stop : Char) (path : String)
    (input : List Editor.Line) : Chore (List UInt8 × Option Nat × Nat) := do
  let files := (← get).files
  let (status, after) :=
    (editFrom sketch.instructions silent files path (2 * longestRun) true).run
      (Editor.start input stop)
  forEach (fun target => do
    match sheetFor target with
    | .file file => discard <| writeFile file (printedOn after (.file file))
    | _ => pure ()) (writtenPaths sketch.instructions)
  let errors := printedOn after .error
  if !errors.isEmpty then
    modify fun desk => { desk with written := (2, errors) :: desk.written }
  return (printedOn after .output, status, after.input.length)

def noPrevious : String :=
  "sed: -e expression #1, char 0: no previous regular expression"

def editInPlace (sketch : Sketch) (silent : Bool) (stop : Char) (suffix : String) :
    List String → Chore Nat
  | [] => finish
  | path :: rest => do
      match ← contentOf path with
      | .error error =>
          if error = .isDirectory then
            fail 4 ("sed: couldn't edit " ++ path ++ ": not a regular file")
          else do
            note 2 ("sed: can't read " ++ path ++ ": " ++ error.reason)
            editInPlace sketch silent stop suffix rest
      | .ok bytes => do
          let (printed, status, _) ← edit sketch silent stop path (linesIn stop bytes)
          if !suffix.isEmpty then discard <| writeFile (path ++ suffix) bytes
          discard <| writeFile path printed
          match status with
          | some 0 => editInPlace sketch silent stop suffix rest
          | some number => return number
          | none => fail 1 noPrevious

def sed : Tool := fun arguments => do
  if arguments.contains "--version" then
    printLine "sed (GNU sed) 4.9"
    finish
  else
    let (words, suffix) := withoutInPlace arguments
    let given ← sedUsage.read words
    let listed := given.options.filter fun option => option.1 == 'e' || option.1 == 'f'
    let (scripts, paths) ← if !listed.isEmpty then pure (listed, given.operands)
      else
        match given.operands with
        | script :: paths => pure ([('e', script)], paths)
        | [] => do
            forEach say sedHints
            throw 1
    let notion := if given.has 'E' || given.has 'r' then Regex.Notion.extended else .basic
    let texts ← scriptTexts 1 scripts
    let sketch ← compile notion true ⟨#[], [], false⟩ texts
    if !sketch.opened.isEmpty then
      fail 1 "sed: -e expression #1, char 0: unmatched \x60\x7b'"
    else
      match missingLabel? sketch.instructions with
      | some name => fail 4 ("sed: can't find label for jump to \x60" ++ name ++ "'")
      | none => do
          let silent := sketch.silent || given.has 'n'
          let stop := if given.has 'z' then '\x00' else '\n'
          match suffix with
          | some ending => editInPlace sketch silent stop ending paths
          | none => do
              let bytes := (← get).input
              let input ← editorInput stop (if paths.isEmpty then ["-"] else paths)
              let (printed, status, left) ← edit sketch silent stop "-" input
              printBytes printed
              if paths.isEmpty && 0 < left then
                let taken := (linesOf bytes).take (input.length - left)
                giveBack bytes taken.flatten.length false
              match status with
              | some 0 => finish
              | some number => return number
              | none => fail 1 noPrevious

end CircuitDiagram.Shell.Tool
