import CircuitDiagram.Machine.Shell.Regex
import CircuitDiagram.Machine.Shell.Tool.Lines

/-!
Searching: the lines of files that have a match in them.
-/

namespace CircuitDiagram.Shell.Tool

open Chore

structure Search where
  regex : Regex
  manner : Regex.Manner
  wholeWords : Bool
  wholeLines : Bool
  inverted : Bool

namespace Search

variable (search : Search)

def counts (start stop : Regex.Spot) : Bool :=
  (!search.wholeLines || (start.before.isEmpty && stop.after.isEmpty)) &&
    (!search.wholeWords || (!start.wordBefore && !stop.wordAfter))

def findFrom : (fuel : Nat) → Regex.Spot → Option Regex.Found
  | 0, _ => none
  | fuel + 1, spot =>
      let stops := (Regex.matchesFrom search.manner search.regex spot).filter (search.counts spot)
      match Regex.longest stops with
      | some stop => some ⟨spot, stop⟩
      | none => if spot.after.isEmpty then none else findFrom fuel spot.forward

def find? (spot : Regex.Spot) : Option Regex.Found :=
  search.findFrom (spot.after.length + 1) spot

def accepts (line : String) : Bool :=
  (search.find? (Regex.spotAt line)).isSome != search.inverted

def allMatches : (fuel : Nat) → Regex.Spot → List (Nat × String)
  | 0, _ => []
  | fuel + 1, spot =>
      match search.find? spot with
      | none => []
      | some found =>
          let rest := if found.text.isEmpty then found.stop.forward else found.stop
          let others := if found.stop.after.isEmpty then [] else allMatches fuel rest
          if found.text.isEmpty then others
          else (found.start.before.length, String.ofList found.text) :: others

end Search

/-- The text as a regular expression in which nothing means anything else. -/
def literally (text : String) : Regex :=
  text.toList.foldr (fun character rest => Regex.joined (.one character) rest) .nothing

def patternOf (given : Given) (text : String) : Except String Regex :=
  if given.has 'F' then .ok (literally text)
  else if text == "[" then .error "Invalid regular expression"
  else Regex.parse (if given.has 'E' || given.has 'P' then .extended else .basic) text

def anyPattern (given : Given) : List String → Except String (Option Regex)
  | [] => .ok none
  | text :: rest => do
      let first ← patternOf given text
      match ← anyPattern given rest with
      | none => return some first
      | some others => return some (.either first others)

def grepHints : List String :=
  ["Usage: grep [OPTION]... PATTERNS [FILE]...", "Try 'grep --help' for more information."]

def grepUsage : Usage :=
  { usageOf "grep" 2 "A:B:C:EFGPacbe:f:Hhilm:noqrRsvwxyz" [('E', "extended-regexp"),
      ('F', "fixed-strings"), ('G', "basic-regexp"), ('c', "count"), ('e', "regexp"),
      ('f', "file"), ('i', "ignore-case"), ('l', "files-with-matches"), ('n', "line-number"),
      ('o', "only-matching"), ('q', "quiet"), ('s', "no-messages"), ('v', "invert-match"),
      ('w', "word-regexp"), ('x', "line-regexp"), ('m', "max-count"), ('A', "after-context"),
      ('B', "before-context"), ('C', "context"), ('H', "with-filename"), ('h', "no-filename"),
      ('r', "recursive"), ('b', "byte-offset"), ('a', "text")] with
    hints := grepHints }

structure Numbered where
  number : Nat
  place : Nat
  text : String

def numberLines : (number place : Nat) → List (List UInt8) → List Numbered
  | _, _, [] => []
  | number, place, line :: rest =>
      ⟨number, place, textOfBytes (withoutLineEnd line)⟩ ::
        numberLines (number + 1) (place + line.length) rest

structure Showing where
  name : Option String
  numbers : Bool
  places : Bool
  before : Nat
  after : Nat

def Showing.line (showing : Showing) (mark : String) (line : Numbered) (place : Nat)
    (text : String) : String :=
  (match showing.name with
    | some name => name ++ mark
    | none => "") ++
    (if showing.numbers then toString line.number ++ mark else "") ++
    (if showing.places then toString place ++ mark else "") ++ text

def Showing.isNear (showing : Showing) (hits : List Nat) (number : Nat) : Bool :=
  hits.any fun hit => hit ≤ number + showing.before && number ≤ hit + showing.after

/-- The lines around matches; a gap between two groups of them is marked. -/
def Showing.context (showing : Showing) (hits : List Nat) (last : Option Nat) :
    List Numbered → List String
  | [] => []
  | line :: rest =>
      if showing.isNear hits line.number then
        let parted := 0 < showing.before + showing.after &&
          last.any fun number => number + 1 < line.number
        let gap := if parted then ["--"] else []
        let mark := if hits.contains line.number then ":" else "-"
        gap ++ showing.line mark line line.place line.text ::
          showing.context hits (some line.number) rest
      else showing.context hits last rest

def searchFile (given : Given) (search : Search) (showing : Showing) (limit : Option Nat)
    (path : String) (bytes : List UInt8) : Chore Nat := do
  let lines := numberLines 1 0 (linesOf bytes)
  let all := lines.filter fun line => search.accepts line.text
  let found := match limit with
    | some count => all.take count
    | none => all
  let shownPath := if isInput path then "(standard input)" else path
  let isBinary := bytes.contains 0 && !given.has 'a'
  if given.has 'q' then return found.length
  else if given.has 'l' || given.has 'L' then
    if found.isEmpty == given.has 'L' then printLine shownPath
    return found.length
  else if given.has 'c' then
    printLine ((match showing.name with
      | some name => name ++ ":"
      | none => "") ++ toString found.length)
    return found.length
  else if isBinary then
    if !found.isEmpty then printLine ("grep: " ++ shownPath ++ ": binary file matches")
    return found.length
  else if given.has 'o' then
    if !search.inverted then
      forEach printLine (found.flatMap fun line =>
        (search.allMatches (line.text.length + 1) (Regex.spotAt line.text)).map
          fun (place, text) => showing.line ":" line (line.place + place) text)
    return found.length
  else
    forEach printLine (showing.context (found.map Numbered.number) none lines)
    return found.length

def filesBelow (files : FileSystem) (path : String) : List String :=
  match files.locate (nameOfText path) with
  | .error _ => [path]
  | .ok location =>
      if files.isDirectoryAt location then
        (files.entries.filterMap fun (place, entry) =>
          match entry, FileSystem.beneath? location place with
          | .file _ _, some (name :: names) =>
              some (path ++ "/" ++ textOfName (String.intercalate "/" (name :: names)))
          | _, _ => none).mergeSort fun left right => decide (left ≤ right)
      else [path]

/-- The number in an option that tells how many lines around a match are shown. -/
def contextOf (given : Given) (letter : Char) : Chore (Option Nat) := do
  match given.value? letter with
  | none => return none
  | some text =>
      match text.toNat? with
      | some count => return some count
      | none => fail 2 ("grep: " ++ text ++ ": invalid context length argument")

def withContextOption (arguments : List String) : List String :=
  arguments.map fun word =>
    match word.toList with
    | '-' :: digit :: rest =>
        if digit.isDigit then "-C" ++ String.ofList (digit :: rest) else word
    | _ => word

def isGrepWord (word : String) : Bool :=
  !(word.startsWith "--color" || word.startsWith "--colour")

def patternsOf (given : Given) : Chore (List String × List String) := do
  let listed := given.values 'e'
  let files ← given.values 'f' |>.mapM fun path => do
    match ← contentOf path with
    | .ok bytes => return (linesOf bytes).map fun line => textOfBytes (withoutLineEnd line)
    | .error error => fail 2 ("grep: " ++ path ++ ": " ++ error.reason)
  if given.has 'e' || given.has 'f' then
    return (listed.flatMap (·.splitOn "\n") ++ files.flatten, given.operands)
  else
    match given.operands with
    | [] => do
        forEach say grepHints
        throw 2
    | first :: rest => return (first.splitOn "\n", rest)

def grepWith (extra : List (Char × String)) : Tool := fun arguments => do
  if arguments.any fun word => word == "-V" || word == "--version" then
    printLine "grep (GNU grep) 3.11"
    finish
  else
    let read ← grepUsage.read (withContextOption (arguments.filter isGrepWord))
    let given := { read with options := extra ++ read.options }
    let (texts, operands) ← patternsOf given
    match anyPattern given texts with
    | .error complaint => fail 2 ("grep: " ++ complaint)
    | .ok regex => do
        let around ← contextOf given 'C'
        let before ← contextOf given 'B'
        let after ← contextOf given 'A'
        if (given.value? 'm').any fun text => text.toNat?.isNone then
          fail 2 "grep: invalid max count"
        else
          let search : Search :=
            ⟨regex.getD (.again 1), ⟨given.has 'i' || given.has 'y'⟩, given.has 'w', given.has 'x',
              given.has 'v'⟩
          let recursive := given.has 'r' || given.has 'R'
          let listed := if operands.isEmpty then (if recursive then ["."] else ["-"]) else operands
          let files := (← get).files
          let paths := if recursive then listed.flatMap (filesBelow files) else listed
          let named :=
            !given.has 'h' && (given.has 'H' || recursive || 1 < listed.length)
          let use (path : String) (bytes : List UInt8) : Chore Nat :=
            searchFile given search
              ⟨if named then some (if isInput path then "(standard input)" else path) else none,
                given.has 'n', given.has 'b', (before <|> around).getD 0,
                (after <|> around).getD 0⟩
              ((given.value? 'm').bind String.toNat?) path bytes
          let count ← go given use paths 0
          let trouble := (← get).trouble
          if given.has 'q' && 0 < count then return 0
          else if trouble != 0 then return trouble
          else return if 0 < count then 0 else 1
where
  go (given : Given) (use : String → List UInt8 → Chore Nat) : List String → Nat → Chore Nat
    | [], count => return count
    | path :: rest, count => do
        if given.has 'q' && 0 < count then return count
        else
          match ← contentOf path with
          | .ok bytes => do
              let more ← use path bytes
              go given use rest (count + more)
          | .error error => do
              let complaint := "grep: " ++ path ++ ": " ++ error.reason
              if given.has 's' then modify fun desk => { desk with trouble := 2 }
              else note 2 complaint
              go given use rest count

def grep : Tool := grepWith []
def egrep : Tool := grepWith [('E', "")]
def fgrep : Tool := grepWith [('F', "")]

end CircuitDiagram.Shell.Tool
