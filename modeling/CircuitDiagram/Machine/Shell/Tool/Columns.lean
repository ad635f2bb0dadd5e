import CircuitDiagram.Machine.Shell.Tool.Desk

/-!
Tools for lines that have columns: parts of lines, lines side by side, and lines cut to a width.
-/

namespace CircuitDiagram.Shell.Tool

open Chore

def splitBytes (separator : UInt8) : List UInt8 → List (List UInt8)
  | [] => [[]]
  | byte :: rest =>
      match splitBytes separator rest with
      | [] => [[]]
      | first :: others =>
          if byte = separator then [] :: first :: others else (byte :: first) :: others

def joinBytes (separator : List UInt8) : List (List UInt8) → List UInt8
  | [] => []
  | [piece] => piece
  | piece :: rest => piece ++ separator ++ joinBytes separator rest

structure Span where
  first : Nat
  last : Option Nat

def Span.holds (range : Span) (position : Nat) : Bool :=
  range.first ≤ position && range.last.all fun last => position ≤ last

def span? (text : String) : Option Span :=
  match text.splitOn "-" with
  | [single] => single.toNat?.bind fun number =>
      if number = 0 then none else some ⟨number, some number⟩
  | ["", ""] => none
  | [first, ""] => first.toNat?.bind fun number =>
      if number = 0 then none else some ⟨number, none⟩
  | ["", last] => last.toNat?.map fun number => ⟨1, some number⟩
  | [first, last] =>
      match first.toNat?, last.toNat? with
      | some low, some high => if low = 0 || high < low then none else some ⟨low, some high⟩
      | _, _ => none
  | _ => none

def positioned {α : Type} (items : List α) : List (Nat × α) :=
  ((List.range items.length).map (· + 1)).zip items

def selected {α : Type} (ranges : List Span) (others : Bool) (items : List α) : List α :=
  (positioned items).filterMap fun (position, item) =>
    if (ranges.any fun range => range.holds position) != others then some item else none

def cutUsage : Usage :=
  usageOf "cut" 1 "b:c:f:d:nsz" [('b', "bytes"), ('c', "characters"), ('f', "fields"),
    ('d', "delimiter"), ('s', "only-delimited")]

def cutKnown : List KnownOption :=
  [⟨'I', "complement", false⟩, ⟨'O', "output-delimiter", true⟩]

def cutFields (given : Given) (ranges : List Span) (line : List UInt8) : List (List UInt8) :=
  let separator := ((bytesOfText ((given.value? 'd').getD "\t")).headD 0)
  let between := bytesOfText ((given.value? 'O').getD (textOfBytes [separator]))
  let fields := splitBytes separator line
  if fields.length ≤ 1 then if given.has 's' then [] else [line]
  else [joinBytes between (selected ranges (given.has 'I') fields)]

def cut : Tool := fun arguments => do
  let usage : Usage := { cutUsage with known := cutUsage.known ++ cutKnown }
  let given ← usage.read arguments
  let lists := given.options.filter fun option => "bcf".toList.contains option.1
  match lists with
  | [] => usage.refuse "you must specify a list of bytes, characters, or fields"
  | _ :: _ :: _ => usage.refuse "only one list may be specified"
  | [(letter, list)] => do
      let kind := if letter = 'f' then "field" else "byte/character position"
      if ((given.value? 'd').getD "\t").length != 1 then
        usage.refuse "the delimiter must be a single character"
      else if given.has 'd' && letter != 'f' then
        usage.refuse "an input delimiter may be specified only when operating on fields"
      else
        match (list.splitOn ",").mapM span? with
        | none => usage.refuse (if (list.splitOn ",").any (· == "0") then
            (if letter = 'f' then "fields" else "byte/character positions") ++
              " are numbered from 1"
          else if (list.splitOn ",").any (· == "-") then "invalid range with no endpoint: -"
          else "invalid " ++ kind ++ (if letter = 'f' then " value '" else " '") ++ list ++ "'")
        | some ranges =>
            let cutLine (line : List UInt8) : List (List UInt8) :=
              if letter = 'f' then cutFields given ranges line
              else [selected ranges (given.has 'I') line]
            forContents given.operands (unreadable 1 "cut") fun _ bytes =>
              printBytes ((linesOf bytes).flatMap fun line =>
                (cutLine (withoutLineEnd line)).flatMap fun piece => piece ++ [lineFeed])
            finish

def separatorsOf : List Char → List (List UInt8)
  | [] => []
  | '\\' :: next :: rest =>
      (match next with
        | 'n' => [lineFeed]
        | 't' => [9]
        | '0' => []
        | _ => bytesOfText next.toString) :: separatorsOf rest
  | character :: rest => bytesOfText character.toString :: separatorsOf rest

/-- Pieces with separators between them, which are used one after the other and again. -/
def joinWith (separators : List (List UInt8)) : (position : Nat) → List (List UInt8) →
    List UInt8
  | _, [] => []
  | _, [piece] => piece
  | position, piece :: rest =>
      piece ++ (separators[position % separators.length]?).getD [] ++
        joinWith separators (position + 1) rest

def sideBySide (separators : List (List UInt8)) : (fuel : Nat) → List (List (List UInt8)) →
    List UInt8
  | 0, _ => []
  | fuel + 1, files =>
      if files.all List.isEmpty then []
      else
        joinWith separators 0 (files.map fun lines => lines.headD []) ++ [lineFeed] ++
          sideBySide separators fuel (files.map fun lines => lines.drop 1)

/-- What each of some operands gets of the input, which those that read it share line by line. -/
def dealt (readers turn : Nat) (lines : List (List UInt8)) : List (List UInt8) :=
  (positioned lines).filterMap fun (position, line) =>
    if (position - 1) % readers = turn then some line else none

def paste : Tool := fun arguments => do
  let given ← (usageOf "paste" 1 "d:sz" [('d', "delimiters"), ('s', "serial")]).read arguments
  let listed := separatorsOf ((given.value? 'd').getD "\t").toList
  let separators := if listed.isEmpty then [[]] else listed
  let paths := if given.operands.isEmpty then ["-"] else given.operands
  let input := (linesOf (← get).input).map withoutLineEnd
  if given.has 's' then
    forContents paths (unreadable 1 "paste") fun _ bytes =>
      printBytes (joinWith separators 0 ((linesOf bytes).map withoutLineEnd) ++ [lineFeed])
  else
    let readers := (paths.filter isInput).length
    let files ← columnsOf input readers 0 paths
    if 0 < readers then modify fun desk => { desk with input := [] }
    let longest := files.foldl (fun most lines => most + lines.length) 0
    printBytes (sideBySide separators (longest + 1) files)
  finish
where
  columnsOf (input : List (List UInt8)) (readers : Nat) : (turn : Nat) → List String →
      Chore (List (List (List UInt8)))
    | _, [] => return []
    | turn, path :: rest => do
        if isInput path then
          return dealt readers turn input :: (← columnsOf input readers (turn + 1) rest)
        else
          match ← contentOf path with
          | .ok bytes =>
              return (linesOf bytes).map withoutLineEnd :: (← columnsOf input readers turn rest)
          | .error error => fail 1 ("paste: " ++ path ++ ": " ++ error.reason)

def advance (bytewise : Bool) (length : Nat) (byte : UInt8) : Nat :=
  if bytewise then length + 1
  else if byte = 9 then (length / 8 + 1) * 8
  else if byte = 8 then length - 1
  else if byte = 13 then 0
  else length + 1

def behindLastBlank (line : List UInt8) : Option Nat :=
  let tail := line.reverse.takeWhile fun byte => !(byte = 32 || byte = 9)
  if tail.length = line.length then none else some (line.length - tail.length)

/-- Cuts a line to a width; `current` is the line that is being filled, last byte first. -/
def foldLine (width : Nat) (bytewise atBlanks : Bool) : (fuel : Nat) → (length : Nat) →
    List UInt8 → List UInt8 → List (List UInt8)
  | 0, _, current, rest => [current.reverse ++ rest]
  | _ + 1, _, current, [] => [current.reverse]
  | fuel + 1, length, current, byte :: rest =>
      let next := advance bytewise length byte
      if width < next && !current.isEmpty then
        let line := current.reverse
        match (if atBlanks then behindLastBlank line else none) with
        | some place =>
            line.take place ::
              foldLine width bytewise atBlanks fuel 0 [] (line.drop place ++ byte :: rest)
        | none => line :: foldLine width bytewise atBlanks fuel 0 [] (byte :: rest)
      else foldLine width bytewise atBlanks fuel next (byte :: current) rest

def withWidthOption (arguments : List String) : List String :=
  arguments.map fun word =>
    match word.toList with
    | '-' :: digit :: rest =>
        if digit.isDigit then "-w" ++ String.ofList (digit :: rest) else word
    | _ => word

def fold : Tool := fun arguments => do
  let given ← (usageOf "fold" 1 "bsw:" [('b', "bytes"), ('s', "spaces"), ('w', "width")]).read
    (withWidthOption arguments)
  match ((given.value? 'w').getD "80").toNat? with
  | none => fail 1 ("fold: invalid number of columns: '" ++ (given.value? 'w').getD "" ++ "'")
  | some width =>
      forContents given.operands (unreadable 1 "fold") fun _ bytes =>
        printBytes ((linesOf bytes).flatMap fun line =>
          let text := withoutLineEnd line
          joinBytes [lineFeed]
            (foldLine width (given.has 'b') (given.has 's') (4 * text.length + 4) 0 [] text) ++
            if text.length < line.length then [lineFeed] else [])
      finish

/-- Lines of two sorted files in the columns they belong to: of the first file alone, of the
second alone, and of both. -/
def compared : (fuel : Nat) → List (List UInt8) → List (List UInt8) →
    List (Nat × List UInt8)
  | 0, _, _ => []
  | _ + 1, [], second => second.map fun line => (2, line)
  | _ + 1, first, [] => first.map fun line => (1, line)
  | fuel + 1, left :: first, right :: second =>
      if left = right then (3, left) :: compared fuel first second
      else if left < right then (1, left) :: compared fuel first (right :: second)
      else (2, right) :: compared fuel (left :: first) second

def comm : Tool := fun arguments => do
  let usage := usageOf "comm" 1 "123" []
  let given ← usage.read arguments
  match given.operands with
  | [first, second] => do
      match ← contentOf first, ← contentOf second with
      | .ok left, .ok right => do
          let lines (bytes : List UInt8) := (linesOf bytes).map withoutLineEnd
          let column (number : Nat) : Bool := !given.has (Char.ofNat (48 + number))
          let indent (number : Nat) : List UInt8 :=
            List.replicate (((List.range number).drop 1).filter column).length 9
          printBytes ((compared (left.length + right.length + 1) (lines left)
            (lines right)).flatMap fun (number, line) =>
              if column number then indent number ++ line ++ [lineFeed] else [])
          finish
      | .error error, _ => fail 1 ("comm: " ++ first ++ ": " ++ error.reason)
      | _, .error error => fail 1 ("comm: " ++ second ++ ": " ++ error.reason)
  | [] => usage.refuse "missing operand"
  | [only] => usage.refuse ("missing operand after '" ++ only ++ "'")
  | _ :: _ :: extra :: _ => usage.refuse ("extra operand '" ++ extra ++ "'")

end CircuitDiagram.Shell.Tool
