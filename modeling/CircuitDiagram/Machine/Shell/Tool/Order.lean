import CircuitDiagram.Machine.Shell.Tool.Columns
import CircuitDiagram.Machine.Shell.Tool.Lines

/-!
Tools for the order of lines: sorting by keys, and leaving out or counting repeated lines.
-/

namespace CircuitDiagram.Shell.Tool

open Chore

/-- Where a key begins or ends: a field, a character in it, and whether leading blanks count. -/
structure KeyEnd where
  field : Nat
  character : Nat
  skipsBlanks : Bool

structure Key where
  start : KeyEnd
  stop : Option KeyEnd
  /-- The letters of its own options; without any, those of the whole sorting count. -/
  letters : List Char

def keyEnd? (text : String) : Option (KeyEnd × List Char) :=
  let digits := text.toList.takeWhile Char.isDigit
  let behind := text.toList.drop digits.length
  let (character, rest) :=
    match behind with
    | '.' :: others =>
        ((String.ofList (others.takeWhile Char.isDigit)).toNat?, others.dropWhile Char.isDigit)
    | _ => (none, behind)
  (String.ofList digits).toNat?.map fun field =>
    (⟨field, character.getD 0, rest.contains 'b'⟩, rest)

def key? (text : String) : Option Key :=
  match text.splitOn "," with
  | [start] => (keyEnd? start).map fun (first, letters) => ⟨first, none, letters⟩
  | [start, stop] =>
      match keyEnd? start, keyEnd? stop with
      | some (first, letters), some (last, others) => some ⟨first, some last, letters ++ others⟩
      | _, _ => none
  | _ => none

def isGap (byte : UInt8) : Bool :=
  byte = 32 || byte = 9

def blankFields : (fuel : Nat) → List UInt8 → List (List UInt8)
  | 0, _ => []
  | fuel + 1, line =>
      if line.isEmpty then []
      else
        let blanks := line.takeWhile isGap
        let body := (line.drop blanks.length).takeWhile fun byte => !isGap byte
        (blanks ++ body) :: blankFields fuel (line.drop (blanks.length + body.length))

/-- The places in a line at which its fields begin, and the lengths of the fields. -/
def fieldPlaces (separator : Option UInt8) (line : List UInt8) : List (Nat × Nat) :=
  let fields := match separator with
    | some byte => splitBytes byte line
    | none => blankFields (line.length + 1) line
  let gap := if separator.isSome then 1 else 0
  (fields.foldl (fun (found, place) field =>
    ((place, field.length) :: found, place + field.length + gap)) ([], 0)).1.reverse

def blanksAt (line : List UInt8) (place : Nat) : Nat :=
  ((line.drop place).takeWhile isGap).length

def Key.part (key : Key) (separator : Option UInt8) (blanks : Bool) (line : List UInt8) :
    List UInt8 :=
  let places := fieldPlaces separator line
  let placeOf (field : Nat) : Nat := ((places[field - 1]?).map Prod.fst).getD line.length
  let fieldStart := placeOf key.start.field
  let first :=
    if key.start.skipsBlanks || blanks then fieldStart + blanksAt line fieldStart else fieldStart
  let start := first + (key.start.character - 1)
  let stop := match key.stop with
    | none => line.length
    | some last =>
        if last.character = 0 then
          match places[last.field - 1]? with
          | some (place, length) => place + length
          | none => line.length
        else
          let place := placeOf last.field
          (if last.skipsBlanks then place + blanksAt line place else place) + last.character
  (line.take stop).drop start

/-- A decimal number as a whole number and how many of its digits are behind the point. -/
def numericPrefix (text : List UInt8) : Int × Nat :=
  let characters := (textOfBytes (text.dropWhile isGap)).toList
  let (negative, body) :=
    match characters with
    | '-' :: rest => (true, rest)
    | _ => (false, characters)
  let whole := body.takeWhile Char.isDigit
  let fraction :=
    match body.drop whole.length with
    | '.' :: rest => rest.takeWhile Char.isDigit
    | _ => []
  let value : Int := (Arithmetic.digitsValue 10 (whole ++ fraction) : Nat)
  (if negative then -value else value, fraction.length)

def compareNumeric (left right : List UInt8) : Ordering :=
  let (first, firstPlaces) := numericPrefix left
  let (second, secondPlaces) := numericPrefix right
  compareOfLessAndEq (first * (Nat.pow 10 secondPlaces : Nat))
    (second * (Nat.pow 10 firstPlaces : Nat))

def upperByte (byte : UInt8) : UInt8 :=
  if 97 ≤ byte && byte ≤ 122 then byte - 32 else byte

def compareBytes (left right : List UInt8) : Ordering :=
  compareOfLessAndEq left right

def countedBytes (letters : List Char) (text : List UInt8) : List UInt8 :=
  let isLetter (byte : UInt8) : Bool := (Char.ofNat byte.toNat).isAlphanum
  let kept :=
    if letters.contains 'd' then text.filter fun byte => isLetter byte || isGap byte
    else if letters.contains 'i' then text.filter fun byte => 32 ≤ byte && byte < 127
    else text
  if letters.contains 'f' then kept.map upperByte else kept

def compareKeys (letters : List Char) (left right : List UInt8) : Ordering :=
  let order :=
    if letters.contains 'n' || letters.contains 'g' || letters.contains 'h' then
      compareNumeric left right
    else compareBytes (countedBytes letters left) (countedBytes letters right)
  if letters.contains 'r' then order.swap else order

structure Sorting where
  keys : List Key
  letters : List Char
  separator : Option UInt8
  unique : Bool
  stable : Bool

def Sorting.byKeys (sorting : Sorting) (left right : List UInt8) : Ordering :=
  let keys := if sorting.keys.isEmpty then [⟨⟨1, 0, false⟩, none, []⟩] else sorting.keys
  keys.foldl (fun (order : Ordering) key =>
    if order != .eq then order
    else
      let letters := if key.letters.isEmpty then sorting.letters else key.letters
      let blanks := letters.contains 'b'
      compareKeys letters (key.part sorting.separator blanks left)
        (key.part sorting.separator blanks right)) .eq

def Sorting.compare (sorting : Sorting) (left right : List UInt8) : Ordering :=
  match sorting.byKeys left right with
  | .eq =>
      if sorting.unique || sorting.stable then .eq
      else
        let order := compareBytes left right
        if sorting.letters.contains 'r' then order.swap else order
  | order => order

def withoutRepeats (same : List UInt8 → List UInt8 → Bool) (last : Option (List UInt8)) :
    List (List UInt8) → List (List UInt8)
  | [] => []
  | line :: rest =>
      if last.any (same line) then withoutRepeats same last rest
      else line :: withoutRepeats same (some line) rest

/-- The first line that does not belong behind the one before it, with its number. -/
def disorder? (wrong : List UInt8 → List UInt8 → Bool) : (number : Nat) →
    List (List UInt8) → Option (Nat × List UInt8)
  | number, first :: second :: rest =>
      if wrong first second then some (number + 1, second)
      else disorder? wrong (number + 1) (second :: rest)
  | _, _ => none

def sortUsage : Usage :=
  usageOf "sort" 2 "bdfghiMnRrVcCk:mo:st:uz" [('r', "reverse"), ('n', "numeric-sort"),
    ('u', "unique"), ('k', "key"), ('t', "field-separator"), ('o', "output"), ('f', "ignore-case"),
    ('b', "ignore-leading-blanks"), ('s', "stable"), ('c', "check")]

def sort : Tool := fun arguments => do
  let given ← sortUsage.read arguments
  let separator := (given.value? 't').map fun text =>
    if text == "\\0" then 0 else (bytesOfText text).headD 0
  match (given.values 'k').mapM key? with
  | none => fail 2 ("sort: invalid number at field start: invalid count at start of '" ++
      (given.value? 'k').getD "" ++ "'")
  | some keys => do
      let sorting : Sorting :=
        ⟨keys, "bdfghiMnrV".toList.filter given.has, separator, given.has 'u', given.has 's'⟩
      let found ← contentsOf 2 "sort: cannot read"
        (if given.operands.isEmpty then ["-"] else given.operands)
      if (← get).trouble != 0 then finish
      else
        let lines := (found.flatMap linesOf).map withoutLineEnd
        if given.has 'c' || given.has 'C' then
          let wrong (first second : List UInt8) : Bool :=
            let order := sorting.compare first second
            order == .gt || (sorting.unique && order == .eq)
          match disorder? wrong 1 lines with
          | none => finish
          | some (number, line) =>
              if given.has 'c' then
                say ("sort: " ++ (given.operands.headD "-") ++ ":" ++ toString number ++
                  ": disorder: " ++ textOfBytes line)
              throw 1
        else
          let sorted := lines.mergeSort fun left right => sorting.compare left right != .gt
          let kept :=
            if given.has 'u' then
              withoutRepeats (fun left right => sorting.byKeys left right == .eq) none sorted
            else sorted
          let bytes := kept.flatMap fun line => line ++ [lineFeed]
          match given.value? 'o' with
          | none => printBytes bytes
          | some path =>
              match ← writeFile path bytes with
              | .ok () => pure ()
              | .error error => fail 2 ("sort: open failed: " ++ path ++ ": " ++ error.reason)
          finish

def comparedPart (given : Given) (line : List UInt8) : List UInt8 :=
  let number (letter : Char) : Option Nat := (given.value? letter).bind String.toNat?
  let skipField (text : List UInt8) : List UInt8 :=
    (text.dropWhile isGap).dropWhile fun byte => !isGap byte
  let behindFields := (List.range ((number 'f').getD 0)).foldl (fun text _ => skipField text) line
  let behind := behindFields.drop ((number 's').getD 0)
  let counted := match number 'w' with
    | some count => behind.take count
    | none => behind
  if given.has 'i' then counted.map upperByte else counted

/-- Runs of lines that count as the same: the first line and how many there are. -/
def runsOf (same : List UInt8 → List UInt8 → Bool) : List (List UInt8) →
    List (List UInt8 × Nat)
  | [] => []
  | line :: rest =>
      match runsOf same rest with
      | [] => [(line, 1)]
      | (first, count) :: others =>
          if same line first then (line, count + 1) :: others
          else (line, 1) :: (first, count) :: others

def uniq : Tool := fun arguments => do
  let usage := usageOf "uniq" 1 "cdDuif:s:w:z" [('c', "count"), ('d', "repeated"),
    ('u', "unique"), ('i', "ignore-case"), ('f', "skip-fields"), ('s', "skip-chars"),
    ('w', "check-chars")]
  let given ← usage.read arguments
  match ← contentOf (given.operands.headD "-") with
  | .error error => fail 1 ("uniq: " ++ given.operands.headD "-" ++ ": " ++ error.reason)
  | .ok bytes => do
      let same (left right : List UInt8) : Bool :=
        comparedPart given left == comparedPart given right
      let runs := (runsOf same ((linesOf bytes).map withoutLineEnd)).filter fun run =>
        if given.has 'd' then 1 < run.2 else if given.has 'u' then run.2 = 1 else true
      let shown := runs.flatMap fun (line, count) =>
        (if given.has 'c' then bytesOfText (inColumn 7 count ++ " ") else []) ++ line ++ [lineFeed]
      match given.operands with
      | [_, target] =>
          match ← writeFile target shown with
          | .ok () => pure ()
          | .error error => fail 1 ("uniq: " ++ target ++ ": " ++ error.reason)
      | _ => printBytes shown
      finish

end CircuitDiagram.Shell.Tool
