import CircuitDiagram.Machine.Shell.Condition
import CircuitDiagram.Machine.Shell.Format
import CircuitDiagram.Machine.Shell.Tool.Files

/-!
Tools that tell something: parts of paths, texts they are given, where things are, and whether a
condition holds.
-/

namespace CircuitDiagram.Shell.Tool

open Chore

def always (status : Nat) : Tool := fun _ => return status

/-- A tool that tells its version when it is asked, and knows nothing else. -/
def versionOnly (name : String) : Tool := fun arguments => do
  if arguments.any fun word => word == "-V" || word == "--version" then
    printLine name
    finish
  else return 1

def withoutSuffix (suffix name : String) : String :=
  if name.endsWith suffix && name != suffix then
    String.ofList (name.toList.take (name.length - suffix.length))
  else name

def basename : Tool := fun arguments => do
  let usage := { usageOf "basename" 1 "as:z" [('a', "multiple"), ('s', "suffix")] with
    mixes := false }
  let given ← usage.read arguments
  let suffix := (given.value? 's').getD ""
  match given.operands with
  | [] => usage.refuse "missing operand"
  | [path] => do
      printLine (withoutSuffix suffix (lastName path))
      finish
  | path :: second :: rest =>
      if given.has 'a' || given.has 's' then do
        forEach (fun path => printLine (withoutSuffix suffix (lastName path)))
          (path :: second :: rest)
        finish
      else
        match rest with
        | extra :: _ => usage.refuse ("extra operand '" ++ extra ++ "'")
        | [] => do
            printLine (withoutSuffix second (lastName path))
            finish

def directoryOf (path : String) : String :=
  let parts := (FileSystem.withoutTrailing (Path.names path)).dropLast
  let text := String.intercalate "/" (FileSystem.withoutTrailing parts)
  if text.isEmpty then (if Path.isAbsolute path then "/" else ".") else text

def dirname : Tool := fun arguments => do
  let usage := usageOf "dirname" 1 "z" [('z', "zero")]
  let given ← usage.read arguments
  if given.operands.isEmpty then usage.refuse "missing operand"
  else
    forEach (fun path => printLine (directoryOf path)) given.operands
    finish

def yes : Tool := fun arguments => do
  let given ← (usageOf "yes" 1 "" []).read arguments
  let line := bytesOfText
    ((if given.operands.isEmpty then "y" else String.intercalate " " given.operands) ++ "\n")
  printBytes (List.replicate (endlessLength / line.length) line).flatten
  finish

def isInterval (text : String) : Bool :=
  match leadingDecimal? text.toList with
  | some (false, some _, rest) =>
      rest.isEmpty || (rest.length = 1 && rest.all fun unit => "smhd".toList.contains unit)
  | _ => false

def sleep : Tool := fun arguments => do
  let usage := usageOf "sleep" 1 "" []
  let given ← usage.read arguments
  if given.operands.isEmpty then usage.refuse "missing operand"
  else
    match given.operands.filter fun text => !isInterval text with
    | [] => return 0
    | wrong =>
        forEach (fun text => say ("sleep: invalid time interval '" ++ text ++ "'")) wrong
        fail 1 "Try 'sleep --help' for more information."

def sync : Tool := fun arguments => do
  let given ← (usageOf "sync" 1 "df" [('d', "data"), ('f', "file-system")]).read arguments
  forEach (fun path => do
    match ← locate path with
    | .ok _ => return
    | .error error =>
        note 1 ("sync: error opening " ++ quotedName path ++ ": " ++ error.reason)) given.operands
  finish

def echoOptions : List String → List Char → List Char × List String
  | [], found => (found, [])
  | word :: rest, found =>
      let letters := word.toList.drop 1
      if word.startsWith "-" && !letters.isEmpty &&
          letters.all fun letter => "neE".toList.contains letter then
        echoOptions rest (found ++ letters)
      else (found, word :: rest)

def echo : Tool := fun arguments => do
  let (letters, words) := echoOptions arguments []
  let escapes := (letters.reverse.find? fun letter => letter != 'n') == some 'e'
  let text := String.intercalate " " words
  let (shown, ended) :=
    if escapes then unescape (text.length + 1) text.toList else (text.toList, false)
  print (String.ofList shown ++ if letters.contains 'n' || ended then "" else "\n")
  finish

def numberComplaint (complaint : String) : String :=
  match complaint.splitOn ": expected numeric value" with
  | [word, ""] => "'" ++ word ++ "': expected a numeric value"
  | _ =>
      match complaint.splitOn ": not completely converted" with
      | [word, ""] => "'" ++ word ++ "': value not completely converted"
      | _ => complaint

def printf : Tool := fun arguments => do
  let words := if arguments.head? == some "--" then arguments.drop 1 else arguments
  match words with
  | [] => do
      say "printf: missing operand"
      fail 1 "Try 'printf --help' for more information."
  | format :: rest => do
      let printing := formatted format rest
      forEach (fun complaint => note 1 ("printf: " ++ numberComplaint complaint))
        printing.complaints
      print (String.ofList printing.text.reverse)
      finish

def test (name : String) : Tool := fun arguments => do
  if name == "[" && arguments.getLast? != some "]" then fail 2 "[: missing ']'"
  else
    let words := if name == "[" then arguments.dropLast else arguments
    match Condition.holds (← get).files words with
    | .ok holds => return if holds then 0 else 1
    | .error complaint => fail 2 (name ++ ": " ++ complaint)

def pathTo (location : Location) : String :=
  textOfName ("/" ++ String.intercalate "/" location)

def pwd : Tool := fun arguments => do
  let _ ← (usageOf "pwd" 1 "LP" []).read arguments
  printLine (pathTo (← get).files.working)
  finish

def printenv : Tool := fun arguments => do
  let given ← (usageOf "printenv" 2 "0" [('0', "null")]).read arguments
  let environment := (← get).environment
  if given.operands.isEmpty then
    forEach (fun (name, value) => printLine (name ++ "=" ++ value)) environment
    finish
  else
    forEach (fun name => match environment.lookup name with
      | some value => printLine value
      | none => modify fun desk => { desk with trouble := 1 }) given.operands
    finish

def placeOfPath (files : FileSystem) (path : String) : Except SystemError Location :=
  match files.locate (nameOfText path) with
  | .ok location => .ok location
  | .error error =>
      if error != .notFound || path.isEmpty then .error error
      else
        match files.locate (nameOfText (directoryOf path)) with
        | .error failure => .error failure
        | .ok location =>
            if files.isDirectoryAt location then .ok (location ++ [nameOfText (lastName path)])
            else .error .notDirectory

def realpath : Tool := fun arguments => do
  let given ← (usageOf "realpath" 1 "eLmPqsz" [('e', "canonicalize-existing"),
    ('q', "quiet")]).read arguments
  if given.operands.isEmpty then missingOperand "realpath"
  else
    forEach (fun path => do
      let files := (← get).files
      let found :=
        if given.has 'e' then files.locate (nameOfText path) else placeOfPath files path
      match found with
      | .ok location => printLine (pathTo location)
      | .error error => unreadable 1 "realpath" path error) given.operands
    finish

def readlink : Tool := fun arguments => do
  let given ← (usageOf "readlink" 1 "efmnqsvz" [('f', "canonicalize")]).read arguments
  if given.operands.isEmpty then missingOperand "readlink"
  else if given.has 'f' || given.has 'e' || given.has 'm' then
    forEach (fun path => do
      match placeOfPath (← get).files path with
      | .ok location => printLine (pathTo location)
      | .error _ => modify fun desk => { desk with trouble := 1 }) given.operands
    finish
  else return 1

def whoami : Tool := fun arguments => do
  let usage := usageOf "whoami" 1 "" []
  let given ← usage.read arguments
  match given.operands with
  | extra :: _ => usage.refuse ("extra operand '" ++ extra ++ "'")
  | [] => do
      printLine "root"
      finish

def id : Tool := fun arguments => do
  let given ← (usageOf "id" 1 "agGnruz" [('u', "user"), ('g', "group"), ('n', "name")]).read
    arguments
  if given.has 'u' || given.has 'g' || given.has 'G' then
    printLine (if given.has 'n' then "root" else "0")
  else printLine "uid=0(root) gid=0(root) groups=0(root)"
  finish

def uname : Tool := fun arguments => do
  let given ← (usageOf "uname" 1 "amnprsiov" [('a', "all"), ('s', "kernel-name"),
    ('m', "machine")]).read arguments
  let shown := [('s', "Linux"), ('m', "x86_64"), ('o', "GNU/Linux")].filterMap
    fun (letter, text) => if given.has letter then some text else none
  printLine (if shown.isEmpty then "Linux" else String.intercalate " " shown)
  finish

/-- The value of a setting that has the form of a name, an equals sign and a text. -/
def setting? (name : String) (words : List String) : Option String :=
  (words.reverse.find? fun word => word.startsWith (name ++ "=")).map fun word =>
    (word.drop (name.length + 1)).toString

def ddNames : List String :=
  ["if", "of", "bs", "ibs", "obs", "cbs", "count", "skip", "seek", "iseek", "oseek", "conv",
    "status", "iflag", "oflag"]

def converted (conversions : List String) (byte : UInt8) : UInt8 :=
  if conversions.contains "ucase" && 97 ≤ byte && byte ≤ 122 then byte - 32
  else if conversions.contains "lcase" && 65 ≤ byte && byte ≤ 90 then byte + 32
  else byte

def ddNumber (words : List String) (name : String) (default : Nat) : Chore Nat := do
  match setting? name words with
  | none => return default
  | some text =>
      match countOfBlocks? text with
      | some number => return number
      | none => fail 1 ("dd: invalid number: '" ++ text ++ "'")
where
  countOfBlocks? (text : String) : Option Nat :=
    let digits := text.toList.takeWhile Char.isDigit
    if digits.isEmpty then none
    else
      let unit := String.ofList (text.toList.drop digits.length)
      ([("", 1), ("c", 1), ("w", 2), ("b", 512), ("kB", 1000), ("k", 1024), ("K", 1024),
        ("KiB", 1024), ("MB", 1000000), ("M", 1048576), ("MiB", 1048576)].lookup unit).map
          fun factor => Arithmetic.digitsValue 10 digits * factor

/-- How many whole blocks there are in a length, and whether there is a part of one. -/
def blockCounts (block length : Nat) : String :=
  toString (length / block) ++ "+" ++ (if length % block = 0 then "0" else "1")

def dd : Tool := fun words => do
  match words.find? fun word => !ddNames.any fun name => word.startsWith (name ++ "=") with
  | some word => do
      say ("dd: unrecognized operand '" ++ word ++ "'")
      fail 1 "Try 'dd --help' for more information."
  | none => do
      let both ← ddNumber words "bs" 512
      let readBlock ← ddNumber words "ibs" both
      let writeBlock ← ddNumber words "obs" both
      let skipped ← ddNumber words "skip" 0
      let sought ← ddNumber words "seek" 0
      let limit ← ddNumber words "count" 0
      let count := if (setting? "count" words).isSome then some limit else none
      if readBlock = 0 || writeBlock = 0 then fail 1 "dd: invalid number: '0'"
      else
        let flags := ((setting? "iflag" words).getD "").splitOn ","
        let unit := if flags.contains "count_bytes" then 1 else readBlock
        let before := (← get).input
        let content ← match setting? "if" words with
          | none => takeInput
          | some path => do
              match ← contentOf path with
              | .ok bytes => pure bytes
              | .error error =>
                  fail 1 ("dd: failed to open '" ++ path ++ "': " ++ error.reason)
        let behind := content.drop (skipped * readBlock)
        let taken := match count with
          | some number => behind.take (number * unit)
          | none => behind
        if (setting? "if" words).isNone then
          modify fun desk =>
            { desk with input := before.drop (skipped * readBlock + taken.length) }
        let conversions := ((setting? "conv" words).getD "").splitOn ","
        let shown := taken.map (converted conversions)
        match setting? "of" words with
        | none => printBytes shown
        | some path => do
            let old ← match ← entryAt path with
              | some (.file found _) => pure found
              | _ => pure []
            let place := sought * writeBlock
            let lead := old.take place ++ List.replicate (place - old.length) 0
            let rest :=
              if conversions.contains "notrunc" then old.drop (place + shown.length) else []
            match ← writeFile path (lead ++ shown ++ rest) with
            | .ok () => pure ()
            | .error error => fail 1 ("dd: failed to open '" ++ path ++ "': " ++ error.reason)
        let status := (setting? "status" words).getD ""
        if status != "none" then
          say (blockCounts readBlock taken.length ++ " records in")
          say (blockCounts writeBlock taken.length ++ " records out")
          if status != "noxfer" then
            say (toString taken.length ++
              (if taken.length = 1 then " byte" else " bytes") ++ " copied")
        finish

/-- One way of showing bytes: its kind, how many bytes make one item, and how wide items are. -/
structure DumpStyle where
  kind : Char
  size : Nat
  width : Nat
  showsText : Bool

def dumpedCharacter (byte : UInt8) : String :=
  match [(0, "\\0"), (7, "\\a"), (8, "\\b"), (9, "\\t"), (10, "\\n"), (11, "\\v"), (12, "\\f"),
      (13, "\\r")].lookup byte.toNat with
  | some text => text
  | none =>
      if 32 ≤ byte && byte < 127 then (Char.ofNat byte.toNat).toString
      else Decimal.zeros (3 - (Nat.toDigits 8 byte.toNat).length) ++
        String.ofList (Nat.toDigits 8 byte.toNat)

def controlNames : List String :=
  ["nul", "soh", "stx", "etx", "eot", "enq", "ack", "bel", "bs", "ht", "nl", "vt", "ff", "cr",
    "so", "si", "dle", "dc1", "dc2", "dc3", "dc4", "nak", "syn", "etb", "can", "em", "sub", "esc",
    "fs", "gs", "rs", "us", "sp"]

def dumpedName (byte : UInt8) : String :=
  let code := byte.toNat % 128
  if code = 127 then "del" else controlNames.getD code (Char.ofNat code).toString

def littleEndian : List UInt8 → Nat
  | [] => 0
  | byte :: rest => byte.toNat + 256 * littleEndian rest

def powerOf (base : Nat) : Nat → Nat
  | 0 => 1
  | count + 1 => base * powerOf base count

def DumpStyle.item (style : DumpStyle) (bytes : List UInt8) : String :=
  let number := littleEndian bytes
  let text :=
    match style.kind with
    | 'c' => dumpedCharacter (bytes.headD 0)
    | 'a' => dumpedName (bytes.headD 0)
    | 'd' =>
        let range := powerOf 256 style.size
        if range ≤ 2 * number then "-" ++ toString (range - number) else toString number
    | 'u' => toString number
    | 'x' => filled (Nat.toDigits 16 number) (2 * style.size)
    | _ => filled (Nat.toDigits 8 number) ((8 * style.size + 2) / 3)
  String.ofList (List.replicate (style.width - text.length) ' ') ++ text
where
  filled (digits : List Char) (width : Nat) : String :=
    Decimal.zeros (width - digits.length) ++ String.ofList digits

def pieces {α : Type} (length : Nat) : (fuel : Nat) → List α → List (List α)
  | 0, _ => []
  | fuel + 1, items =>
      if items.isEmpty then [] else items.take length :: pieces length fuel (items.drop length)

def DumpStyle.line (style : DumpStyle) (bytes : List UInt8) : String :=
  let items := (pieces style.size (bytes.length + 1) bytes).map style.item
  let shown := String.join items
  if style.showsText then
    let full := 16 / style.size * style.width
    shown ++ String.ofList (List.replicate (full - shown.length) ' ') ++ "  >" ++
      String.ofList (bytes.map fun byte =>
        if 32 ≤ byte && byte < 127 then Char.ofNat byte.toNat else '.') ++ "<"
  else shown

def dumpStyle? (text : String) : Option DumpStyle :=
  let showsText := text.endsWith "z"
  match (if showsText then text.toList.dropLast else text.toList) with
  | ['c'] => some ⟨'c', 1, 4, showsText⟩
  | ['a'] => some ⟨'a', 1, 4, showsText⟩
  | kind :: size =>
      let count := match String.ofList size with
        | "" => some 4
        | "C" => some 1
        | "S" => some 2
        | "I" => some 4
        | "L" => some 8
        | digits => digits.toNat?
      match kind, count with
      | 'x', some number => known kind number showsText [(1, 3), (2, 5), (4, 9), (8, 17)]
      | 'o', some number => known kind number showsText [(1, 4), (2, 7), (4, 12), (8, 23)]
      | 'u', some number => known kind number showsText [(1, 4), (2, 6), (4, 11), (8, 21)]
      | 'd', some number => known kind number showsText [(1, 5), (2, 7), (4, 12), (8, 21)]
      | _, _ => none
  | [] => none
where
  known (kind : Char) (size : Nat) (showsText : Bool) (widths : List (Nat × Nat)) :
      Option DumpStyle :=
    (widths.lookup size).map fun width => ⟨kind, size, width, showsText⟩

def dumpAddress (base : Char) (place : Nat) : String :=
  let padded (width : Nat) (digits : List Char) : String :=
    Decimal.zeros (width - digits.length) ++ String.ofList digits
  match base with
  | 'd' => padded 7 (Nat.toDigits 10 place)
  | 'x' => padded 6 (Nat.toDigits 16 place)
  | 'n' => ""
  | _ => padded 7 (Nat.toDigits 8 place)

/-- Lines of a dump; those that repeat the one before give way to one star. -/
def dumpLines (styles : List DumpStyle) (base : Char) (all : Bool) :
    (place : Nat) → (last : Option (List UInt8)) → (starred : Bool) → List (List UInt8) →
      List String
  | _, _, _, [] => []
  | place, last, starred, bytes :: rest =>
      if !all && last == some bytes && bytes.length = 16 then
        (if starred then [] else ["*"]) ++
          dumpLines styles base all (place + bytes.length) last true rest
      else
        let address := dumpAddress base place
        let blank := String.ofList (List.replicate address.length ' ')
        let shown := styles.map fun style => style.line bytes
        (match shown with
          | [] => []
          | first :: others => (address ++ first) :: others.map fun line => blank ++ line) ++
          dumpLines styles base all (place + bytes.length) (some bytes) false rest

def dumpStyles (options : List (Char × String)) : Chore (List DumpStyle) := do
  let types := options.filterMap fun (letter, value) =>
    match letter with
    | 't' => some value
    | 'c' => some "c"
    | 'a' => some "a"
    | 'b' => some "o1"
    | 'o' => some "o2"
    | 'x' => some "x2"
    | 'd' => some "u2"
    | 's' => some "d2"
    | 'i' => some "d4"
    | 'l' => some "d8"
    | _ => none
  (if types.isEmpty then ["o2"] else types).mapM fun text => do
    match dumpStyle? text with
    | some style => return style
    | none =>
        fail 1 ("od: invalid character '" ++ (text.take 1).toString ++ "' in type string '" ++
          text ++ "'")

def od : Tool := fun arguments => do
  let given ← (usageOf "od" 1 "A:abcdij:lN:ost:vw:x" [('A', "address-radix"), ('t', "format"),
    ('N', "read-bytes"), ('j', "skip-bytes"), ('v', "output-duplicates")]).read arguments
  let styles ← dumpStyles given.options
  let number (letter : Char) : Option Nat := (given.value? letter).bind String.toNat?
  let bytes ← allContents 1 "od" given.operands
  if bytes.isEmpty && (← get).trouble != 0 then finish
  else
    let skipped := (number 'j').getD 0
    let behind := bytes.drop skipped
    let taken := match number 'N' with
      | some count => behind.take count
      | none => behind
    let base := ((given.value? 'A').getD "o").toList.headD 'o'
    forEach printLine
      (dumpLines styles base (given.has 'v') skipped none false
        (pieces 16 (taken.length + 1) taken))
    if base != 'n' then printLine (dumpAddress base (skipped + taken.length))
    finish

end CircuitDiagram.Shell.Tool
