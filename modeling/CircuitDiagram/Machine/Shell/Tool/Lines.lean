import CircuitDiagram.Machine.Shell.Format
import CircuitDiagram.Machine.Shell.Tool.Desk

/-!
Tools that show lines: whole files, their beginnings or ends, numbered, turned round or counted.
-/

namespace CircuitDiagram.Shell.Tool

open Chore

def inColumn (width number : Nat) : String :=
  let text := toString number
  String.ofList (List.replicate (width - text.length) ' ') ++ text

def visible (byte : UInt8) : List UInt8 :=
  let plain (code : UInt8) : List UInt8 :=
    if code < 32 then [94, code + 64] else if code = 127 then [94, 63] else [code]
  if byte < 128 then plain byte else [77, 45] ++ plain (byte - 128)

structure CatStyle where
  numbers : Bool
  numbersFilled : Bool
  squeezes : Bool
  showsEnds : Bool
  showsTabs : Bool
  showsAll : Bool

def CatStyle.content (style : CatStyle) (line : List UInt8) : List UInt8 :=
  (withoutLineEnd line).flatMap fun byte =>
    if byte = 9 then (if style.showsTabs then [94, 73] else [9])
    else if style.showsAll then visible byte
    else [byte]

/-- Lines in a style, from a number on; `empties` counts the empty lines right before. -/
def CatStyle.show (style : CatStyle) : (number empties : Nat) → List (List UInt8) →
    List (List UInt8)
  | _, _, [] => []
  | number, empties, line :: rest =>
      let isEmpty := line == [lineFeed]
      if style.squeezes && isEmpty && 0 < empties then style.show number (empties + 1) rest
      else
        let numbered := if style.numbersFilled then !isEmpty else style.numbers
        let label := if numbered then bytesOfText (inColumn 6 number ++ "\t") else []
        let ends : List UInt8 :=
          if line.getLast? == some lineFeed then
            if style.showsEnds then [36, lineFeed] else [lineFeed]
          else []
        (label ++ style.content line ++ ends) ::
          style.show (if numbered then number + 1 else number)
            (if isEmpty then empties + 1 else 0) rest

def catUsage : Usage :=
  usageOf "cat" 1 "AbeEnstTuv" [('A', "show-all"), ('b', "number-nonblank"), ('E', "show-ends"),
    ('n', "number"), ('s', "squeeze-blank"), ('T', "show-tabs"), ('v', "show-nonprinting")]

def cat : Tool := fun arguments => do
  let given ← catUsage.read arguments
  let hasAny (letters : String) : Bool := letters.toList.any given.has
  let style : CatStyle :=
    ⟨given.has 'n', given.has 'b', given.has 's', hasAny "AeE", hasAny "AtT", hasAny "Aetv"⟩
  if given.options.all fun option => option.1 == 'u' then
    forContents given.operands (unreadable 1 "cat") fun _ bytes => printBytes bytes
  else
    let bytes ← allContents 1 "cat" given.operands
    printBytes (style.show 1 0 (linesOf bytes)).flatten
  finish

def blockLength : Nat := 8192

/-- Gives back what was not needed of an input: all of it if it can be read again, and else what
is beyond the blocks that were read. -/
def giveBack (input : List UInt8) (needed : Nat) (exact : Bool) : Chore Unit :=
  modify fun desk =>
    { desk with
      input := input.drop
        (if desk.rereads || exact then needed
          else (needed + blockLength - 1) / blockLength * blockLength) }

def withCountOption : List String → List String
  | [] => []
  | word :: rest =>
      (match word.toList with
        | '-' :: digit :: others =>
            if digit.isDigit then "-n" ++ String.ofList (digit :: others) else word
        | _ => word) :: rest

def countOf? (text : String) : Option Nat :=
  let digits := text.toList.takeWhile Char.isDigit
  let unit := String.ofList (text.toList.drop digits.length)
  if digits.isEmpty then none
  else
    let number := Arithmetic.digitsValue 10 digits
    ([("", 1), ("b", 512), ("kB", 1000), ("k", 1024), ("K", 1024), ("KiB", 1024),
      ("MB", 1000000), ("m", 1048576), ("M", 1048576), ("MiB", 1048576)].lookup unit).map
        fun factor => number * factor

def signedCount (text : String) : Char × Option Nat :=
  match text.toList with
  | '-' :: rest => ('-', countOf? (String.ofList rest))
  | '+' :: rest => ('+', countOf? (String.ofList rest))
  | _ => (' ', countOf? text)

def shownName (path : String) : String :=
  if isInput path then "standard input" else path

structure Extent where
  bytes : Bool
  sign : Char
  count : Nat

def readExtent (tool : String) (given : Given) : Chore Extent := do
  let option := (given.options.reverse.find? fun option => "nc".toList.contains option.1).getD
    ('n', "10")
  let (sign, count) := signedCount option.2
  match count with
  | some count => return ⟨option.1 == 'c', sign, count⟩
  | none =>
      fail 1 (tool ++ ": invalid number of " ++
        (if option.1 == 'c' then "bytes" else "lines") ++ ": '" ++ option.2 ++ "'")

/-- Shows a part of each operand, with its name before it if there are several. -/
def showParts (tool : String) (given : Given) (part : List UInt8 → List UInt8)
    (behind : String → List UInt8 → List UInt8 → Chore Unit) : Chore Nat := do
  let named := !given.has 'q' && (given.has 'v' || 1 < given.operands.length)
  let header (path : String) : Chore Unit := do
    if named then
      let isFirst := (← get).written.all fun entry => entry.1 != 1
      printLine ((if isFirst then "" else "\n") ++ "==> " ++ shownName path ++ " <==")
  let refused (path : String) (error : SystemError) : Chore Unit := do
    if error = .isDirectory || isInput path then
      header path
      note 1 (tool ++ ": error reading '" ++ shownName path ++ "': " ++ error.reason)
    else
      note 1 (tool ++ ": cannot open '" ++ path ++ "' for reading: " ++ error.reason)
  forContents given.operands refused fun path bytes => do
    header path
    let shown := part bytes
    printBytes shown
    behind path bytes shown
  finish

def headUsage : Usage :=
  usageOf "head" 1 "c:n:qvz" [('c', "bytes"), ('n', "lines"), ('q', "quiet"), ('v', "verbose")]

def head : Tool := fun arguments => do
  let given ← headUsage.read (withCountOption arguments)
  let extent ← readExtent "head" given
  let take {α : Type} (items : List α) : List α :=
    if extent.sign = '-' then items.take (items.length - extent.count) else items.take extent.count
  let part (bytes : List UInt8) : List UInt8 :=
    if extent.bytes then take bytes else (take (linesOf bytes)).flatten
  showParts "head" given part fun path bytes shown =>
    if isInput path then giveBack bytes shown.length extent.bytes else return

def tailUsage : Usage :=
  usageOf "tail" 1 "c:n:qvfFz" [('c', "bytes"), ('n', "lines"), ('q', "quiet"), ('v', "verbose"),
    ('f', "follow")]

def tail : Tool := fun arguments => do
  let given ← tailUsage.read (withCountOption arguments)
  let extent ← readExtent "tail" given
  let take {α : Type} (items : List α) : List α :=
    if extent.sign = '+' then items.drop (extent.count - 1)
    else items.drop (items.length - extent.count)
  showParts "tail" given (fun bytes =>
    if extent.bytes then take bytes else (take (linesOf bytes)).flatten) fun _ _ _ => return

def tac : Tool := fun arguments => do
  let given ← (usageOf "tac" 1 "" []).read arguments
  forContents given.operands (fun path error =>
      note 1 ("tac: failed to open '" ++ path ++ "' for reading: " ++ error.reason))
    fun _ bytes => printBytes (linesOf bytes).reverse.flatten
  finish

def rev : Tool := fun arguments => do
  let given ← (usageOf "rev" 1 "V" [('V', "version")]).read arguments
  if given.has 'V' then
    printLine "rev"
    throw 0
  forContents given.operands
    (fun path error => note 1 ("rev: cannot open " ++ path ++ ": " ++ error.reason))
    fun _ bytes => printBytes ((linesOf bytes).flatMap fun line =>
      (withoutLineEnd line).reverse ++
        if line.getLast? == some lineFeed then [lineFeed] else [])
  finish

structure Numbering where
  all : Bool
  none : Bool
  width : Nat
  separator : String
  step : Nat
  zeroed : Bool
  left : Bool

def Numbering.label (style : Numbering) (number : Nat) : String :=
  let text := toString number
  let missing := style.width - text.length
  (if style.left then text ++ String.ofList (List.replicate missing ' ')
    else if style.zeroed then Decimal.zeros missing ++ text
    else inColumn style.width number) ++ style.separator

def Numbering.show (style : Numbering) : Nat → List (List UInt8) → List (List UInt8)
  | _, [] => []
  | number, line :: rest =>
      if !style.none && (style.all || withoutLineEnd line != []) then
        (bytesOfText (style.label number) ++ withLineEnd line) ::
          style.show (number + style.step) rest
      else
        let blanks := List.replicate (style.width + style.separator.length) (32 : UInt8)
        (blanks ++ withLineEnd line) :: style.show number rest

def nl : Tool := fun arguments => do
  let given ← (usageOf "nl" 1 "b:w:s:v:i:n:" [('b', "body-numbering"), ('w', "number-width"),
    ('s', "number-separator"), ('v', "starting-line-number"), ('i', "line-increment"),
    ('n', "number-format")]).read arguments
  let number (letter : Char) (default : Nat) : Nat :=
    ((given.value? letter).bind String.toNat?).getD default
  let style : Numbering :=
    { all := given.value? 'b' == some "a"
      none := given.value? 'b' == some "n"
      width := number 'w' 6
      separator := (given.value? 's').getD "\t"
      step := number 'i' 1
      zeroed := given.value? 'n' == some "rz"
      left := given.value? 'n' == some "ln" }
  let bytes ← allContents 1 "nl" given.operands
  printBytes (style.show (number 'v' 1) (linesOf bytes)).flatten
  finish

def isBlankByte (byte : UInt8) : Bool :=
  byte == 32 || (9 ≤ byte && byte ≤ 13)

def countWords (inside : Bool) : List UInt8 → Nat
  | [] => 0
  | byte :: rest =>
      if isBlankByte byte then countWords false rest
      else (if inside then 0 else 1) + countWords true rest

/-- The length of a line on a screen, with tabs up to every eighth place. -/
def shownLength (line : List UInt8) : Nat :=
  line.foldl (fun length byte =>
    if byte = 9 then (length / 8 + 1) * 8
    else if 32 ≤ byte && byte < 127 then length + 1
    else length) 0

def longestLine (bytes : List UInt8) : Nat :=
  (linesOf bytes).foldl (fun longest line =>
    let length := shownLength line
    if longest < length then length else longest) 0

/-- The counts that were asked for, in their order: lines, words, characters, bytes, and the
length of the longest line. -/
def countsOf (letters : List Char) (bytes : List UInt8) : List Nat :=
  letters.map fun letter =>
    match letter with
    | 'l' => bytes.count lineFeed
    | 'w' => countWords false bytes
    | 'L' => longestLine bytes
    | _ => bytes.length

def addCounts (letters : List Char) (first second : List Nat) : List Nat :=
  (letters.zip (first.zip second)).map fun (letter, left, right) =>
    if letter = 'L' then (if left < right then right else left) else left + right

/-- How wide counts are: as wide as the size of all files, but wider when something else is
counted. -/
def countWidth (files : FileSystem) (rereads : Bool) (input : List UInt8) (letters : List Char)
    (paths : List String) : Nat :=
  if paths.length ≤ 1 && letters.length = 1 then 1
  else
    let sizes := (if paths.isEmpty then ["-"] else paths).map fun path =>
      if isInput path then (if rereads then some input.length else none)
      else
        match files.locate (nameOfText path) with
        | .error _ => some 0
        | .ok location =>
            match files.get? location with
            | some (.file content _) =>
                if location = FileSystem.nullDevice then none else some content.length
            | _ => none
    let total := sizes.foldl (fun sum size => sum + size.getD 0) 0
    let width := (toString total).length
    if sizes.any Option.isNone && width < 7 then 7 else width

def wc : Tool := fun arguments => do
  let given ← (usageOf "wc" 1 "clmwL" [('c', "bytes"), ('l', "lines"), ('m', "chars"),
    ('w', "words"), ('L', "max-line-length")]).read arguments
  let asked := "lwmcL".toList.filter given.has
  let letters := if asked.isEmpty then "lwc".toList else asked
  let desk ← get
  let width := countWidth desk.files desk.rereads desk.input letters given.operands
  let line (numbers : List Nat) (name : String) : Chore Unit :=
    printLine (String.intercalate " " (numbers.map (inColumn width)) ++
      if name.isEmpty then "" else " " ++ name)
  let total ← go line letters given.operands (letters.map fun _ => 0)
    (if given.operands.isEmpty then [""] else given.operands)
  if 1 < given.operands.length then line total "total"
  finish
where
  go (line : List Nat → String → Chore Unit) (letters : List Char) (operands : List String)
      (total : List Nat) : List String → Chore (List Nat)
    | [] => return total
    | path :: rest => do
        match ← contentOf (if path.isEmpty && operands.isEmpty then "-" else path) with
        | .ok bytes =>
            let numbers := countsOf letters bytes
            line numbers path
            go line letters operands (addCounts letters total numbers) rest
        | .error error =>
            unreadable 1 "wc" (if path.isEmpty then "'standard input'" else path) error
            if error = .isDirectory then line (letters.map fun _ => 0) path
            go line letters operands total rest

end CircuitDiagram.Shell.Tool
