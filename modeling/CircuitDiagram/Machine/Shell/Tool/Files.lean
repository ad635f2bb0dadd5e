import CircuitDiagram.Machine.Shell.Tool.Desk

/-!
Tools that work on files as such: they make, copy, move, list and remove them.
-/

namespace CircuitDiagram.Shell.Tool

open Chore

def quotedName (name : String) : String :=
  if name.toList.contains '\'' && !name.toList.contains '"' then "\"" ++ name ++ "\""
  else "'" ++ name ++ "'"

def missingOperand {α : Type} (tool : String) : Chore α := do
  say (tool ++ ": missing operand")
  fail 1 ("Try '" ++ tool ++ " --help' for more information.")

def could (tool complaint path : String) (error : SystemError) : Chore Unit :=
  note 1 (tool ++ ": " ++ complaint ++ " " ++ quotedName path ++ ": " ++ error.reason)

def lastName (path : String) : String :=
  let names := FileSystem.withoutTrailing (Path.names path)
  match names.getLast? with
  | some name => name
  | none => if path.isEmpty then "" else "/"

def entriesAt (files : FileSystem) (location : Location) : List (Location × Entry) :=
  files.entries.filterMap fun (place, entry) =>
    (FileSystem.beneath? location place).map fun names => (names, entry)

def removeAll (files : FileSystem) (location : Location) : FileSystem :=
  { files with entries := files.entries.filter fun entry =>
      (FileSystem.beneath? location entry.1).isNone }

def isEmptyDirectory (files : FileSystem) (location : Location) : Bool :=
  files.isDirectoryAt location && (files.namesAt location).isEmpty

def removeEntry (given : Given) (path : String) : Chore Unit := do
  let files := (← get).files
  let recursive := given.has 'r' || given.has 'R'
  match files.locate (nameOfText path) with
  | .error error =>
      if given.has 'f' && (error = .notFound || error = .notDirectory) then return
      else could "rm" "cannot remove" path error
  | .ok location =>
      let name := lastName path
      if recursive && (name == "." || name == "..") then
        note 1 ("rm: refusing to remove '.' or '..' directory: skipping " ++ quotedName path)
      else if files.isDirectoryAt location && !recursive then
        if given.has 'd' then
          if isEmptyDirectory files location then
            modify fun desk => { desk with files := files.remove location }
          else could "rm" "cannot remove" path (.numbered 39)
        else could "rm" "cannot remove" path .isDirectory
      else if !files.isDirectoryAt location && Path.endsWithSlash path then
        could "rm" "cannot remove" path .notDirectory
      else
        if given.has 'v' then printLine ("removed " ++ quotedName path)
        modify fun desk => { desk with files := removeAll files location }

def rm : Tool := fun arguments => do
  let given ← (usageOf "rm" 1 "dfirRvI" [('r', "recursive"), ('f', "force"), ('v', "verbose"),
    ('d', "dir"), ('i', "interactive")]).read arguments
  if given.operands.isEmpty && !given.has 'f' then missingOperand "rm"
  else
    forEach (removeEntry given) given.operands
    finish

def makeDirectory (given : Given) (path : String) : Chore Unit := do
  let files := (← get).files
  let name := nameOfText path
  let made := if given.has 'p' then files.makeDirectories name else files.makeDirectory name
  match ← changeFiles made with
  | .ok () =>
      if given.has 'v' then printLine ("mkdir: created directory " ++ quotedName path)
  | .error error => could "mkdir" "cannot create directory" path error

def mkdir : Tool := fun arguments => do
  let given ← (usageOf "mkdir" 1 "m:pv" [('p', "parents"), ('m', "mode"), ('v', "verbose")]).read
    arguments
  if given.operands.isEmpty then missingOperand "mkdir"
  else
    forEach (makeDirectory given) given.operands
    finish

def removeDirectory (path : String) : Chore Unit := do
  let files := (← get).files
  match files.locate (nameOfText path) with
  | .error error => could "rmdir" "failed to remove" path error
  | .ok location =>
      if !files.isDirectoryAt location then
        could "rmdir" "failed to remove" path .notDirectory
      else if lastName path == "." then could "rmdir" "failed to remove" path (.numbered 22)
      else if isEmptyDirectory files location then
        modify fun desk => { desk with files := files.remove location }
      else could "rmdir" "failed to remove" path (.numbered 39)

def rmdir : Tool := fun arguments => do
  let given ← (usageOf "rmdir" 1 "pv" [('p', "parents"), ('v', "verbose")]).read arguments
  if given.operands.isEmpty then missingOperand "rmdir"
  else
    let around (path : String) : List String :=
      if given.has 'p' then
        let parts := Path.components path
        (List.range parts.length).reverse.map fun count =>
          Path.assemble (Path.isAbsolute path) (parts.take (count + 1))
      else [path]
    forEach (fun path => forEach removeDirectory (around path)) given.operands
    finish

def putFile (path : String) (content : List UInt8) (executable : Bool) :
    Chore (Except SystemError Unit) := do
  let files := (← get).files
  match files.fileLocation (nameOfText path) with
  | .error error => return .error error
  | .ok location => do
      let entry : Entry := .file content (match files.get? location with
        | some (.file _ old) => old
        | _ => executable)
      let changed :=
        if location = FileSystem.nullDevice then files else files.put location entry
      modify fun desk => { desk with files := changed }
      return .ok ()

def destination (files : FileSystem) (target source : String) : String :=
  if files.isDirectory (nameOfText target) then
    (if Path.endsWithSlash target then target else target ++ "/") ++ lastName source
  else target

def sameFile (files : FileSystem) (first second : String) : Bool :=
  match files.locate (nameOfText first), files.locate (nameOfText second) with
  | .ok left, .ok right => left == right
  | _, _ => false

def copyAll (entries : List (Location × Entry)) (target : Location) (files : FileSystem) :
    FileSystem :=
  entries.foldl (fun files entry => files.put (target ++ entry.1) entry.2) files

def directoryPlace (files : FileSystem) (path : String) : Except SystemError Location :=
  let names := FileSystem.withoutTrailing (Path.names path)
  match files.parent path names with
  | .error error => .error error
  | .ok (location, name) =>
      if FileSystem.longestName < name.utf8ByteSize then .error .nameTooLong
      else .ok (location ++ [name])

def copyOne (given : Given) (source target : String) : Chore Unit := do
  let files := (← get).files
  let place := destination files target source
  if isInput source then
    match ← putFile place (← takeInput) false with
    | .ok () => return
    | .error error => could "cp" "cannot create regular file" place error
  else
    match files.locate (nameOfText source) with
    | .error error => could "cp" "cannot stat" source error
    | .ok location =>
        if sameFile files source place then
          note 1 ("cp: " ++ quotedName source ++ " and " ++ quotedName place ++
            " are the same file")
        else
          match files.get? location with
          | some (.file content executable) => do
              if given.has 'n' && (← entryAt place).isSome then return
              match ← putFile place content executable with
              | .ok () =>
                  if given.has 'v' then
                    printLine (quotedName source ++ " -> " ++ quotedName place)
              | .error error =>
                  if error = .isDirectory && files.isDirectory (nameOfText place) then
                    note 1 ("cp: cannot overwrite directory " ++ quotedName place ++
                      " with non-directory")
                  else
                    could "cp" "cannot create regular file" place
                      (if error = .isDirectory then .notDirectory else error)
          | some .directory =>
              if !(given.has 'r' || given.has 'R' || given.has 'a') then
                note 1 ("cp: -r not specified; omitting directory " ++ quotedName source)
              else
                match directoryPlace files (nameOfText place) with
                | .error error => could "cp" "cannot create directory" place error
                | .ok into =>
                    modify fun desk =>
                      { desk with files := copyAll (entriesAt files location) into files }
          | some (.tool name) =>
              match files.fileLocation (nameOfText place) with
              | .error error => could "cp" "cannot create regular file" place error
              | .ok into =>
                  modify fun desk => { desk with files := files.put into (.tool name) }
          | none => return

def bring (tool : String) (given : Given) (one : String → String → Chore Unit) : Chore Nat := do
  let help := "Try '" ++ tool ++ " --help' for more information."
  let files := (← get).files
  match given.value? 't', given.operands.reverse with
  | some target, sources => do
      forEach (one · target) sources.reverse
      finish
  | none, [] => do
      say (tool ++ ": missing file operand")
      fail 1 help
  | none, [source] => do
      say (tool ++ ": missing destination file operand after " ++ quotedName source)
      fail 1 help
  | none, target :: sources =>
      if 1 < sources.length && !files.isDirectory (nameOfText target) then
        let error := match files.locate (nameOfText target) with
          | .error error => error
          | .ok _ => .notDirectory
        fail 1 (tool ++ ": target " ++ quotedName target ++ ": " ++ error.reason)
      else do
        forEach (one · target) sources.reverse
        finish

def cp : Tool := fun arguments => do
  let given ← (usageOf "cp" 1 "adfilnpPrRsTt:uvLH" [('r', "recursive"), ('f', "force"),
    ('v', "verbose"), ('a', "archive"), ('n', "no-clobber"), ('t', "target-directory")]).read
      arguments
  bring "cp" given (copyOne given)

def moveOne (given : Given) (source target : String) : Chore Unit := do
  let files := (← get).files
  let place := destination files target source
  match files.locate (nameOfText source) with
  | .error error => could "mv" "cannot stat" source error
  | .ok location =>
      let found := if files.isDirectoryAt location then directoryPlace files (nameOfText place)
        else files.fileLocation (nameOfText place)
      match found with
      | .error error =>
          if error = .isDirectory && files.isDirectory (nameOfText place) then
            note 1 ("mv: cannot overwrite directory " ++ quotedName place ++
              " with non-directory")
          else
            note 1 ("mv: cannot move " ++ quotedName source ++ " to " ++ quotedName place ++
              ": " ++ (if error = .isDirectory then SystemError.notDirectory else error).reason)
      | .ok into =>
          if into = location then
            note 1 ("mv: " ++ quotedName source ++ " and " ++ quotedName place ++
              " are the same file")
          else if given.has 'n' && (files.get? into).isSome then return
          else if (FileSystem.beneath? location into).isSome then
            note 1 ("mv: cannot move " ++ quotedName source ++ " to a subdirectory of itself, " ++
              quotedName place)
          else
            let cleared := removeAll (removeAll files location) into
            modify fun desk =>
              { desk with files := copyAll (entriesAt files location) into cleared }
            if given.has 'v' then
              printLine ("renamed " ++ quotedName source ++ " -> " ++ quotedName place)

def mv : Tool := fun arguments => do
  let given ← (usageOf "mv" 1 "finTt:uv" [('f', "force"), ('v', "verbose"), ('n', "no-clobber"),
    ('t', "target-directory")]).read arguments
  bring "mv" given (moveOne given)

def linkOne (source target : String) : Chore Unit := do
  let files := (← get).files
  let place := destination files target source
  match files.locate (nameOfText source) with
  | .error error => could "ln" "failed to access" source error
  | .ok location =>
      match files.fileLocation (nameOfText place), files.get? location with
      | .ok into, some entry =>
          if (files.get? into).isSome then
            could "ln" "failed to create hard link" place .alreadyExists
          else modify fun desk => { desk with files := files.put into entry }
      | .error error, _ => could "ln" "failed to create hard link" place error
      | .ok _, none => return

def ln : Tool := fun arguments => do
  let given ← (usageOf "ln" 1 "fnsvrT" [('s', "symbolic"), ('f', "force")]).read arguments
  match given.operands with
  | [source] => do
      linkOne source "."
      finish
  | _ => bring "ln" given linkOne

def touchOne (given : Given) (path : String) : Chore Unit := do
  match ← locate path with
  | .ok _ => return
  | .error error =>
      if given.has 'c' && error = .notFound then return
      else
        match ← writeFile path [] with
        | .ok () => return
        | .error failure =>
            could "touch" (if given.has 'c' then "setting times of" else "cannot touch") path
              (if failure = .isDirectory then .notFound else failure)

def touch : Tool := fun arguments => do
  let given ← (usageOf "touch" 1 "acd:mr:t:h" [('c', "no-create"), ('d', "date"),
    ('r', "reference")]).read arguments
  if given.operands.isEmpty then
    say "touch: missing file operand"
    fail 1 "Try 'touch --help' for more information."
  else
    forEach (touchOne given) given.operands
    finish

def streamAt? (path : String) : Option Nat :=
  match path with
  | "/dev/stdout" => some 1
  | "/dev/stderr" => some 2
  | "/dev/fd/1" => some 1
  | "/dev/fd/2" => some 2
  | "/proc/self/fd/1" => some 1
  | "/proc/self/fd/2" => some 2
  | _ => none

def teeInto (given : Given) (bytes : List UInt8) (path : String) : Chore Unit := do
  match streamAt? path with
  | some stream => modify fun desk => { desk with written := (stream, bytes) :: desk.written }
  | none =>
      if path == "/dev/full" then note 1 "tee: /dev/full: No space left on device"
      else
        let old ← match ← entryAt path with
          | some (.file content _) => pure (if given.has 'a' then content else [])
          | _ => pure []
        match ← writeFile path (old ++ bytes) with
        | .ok () => return
        | .error error => unreadable 1 "tee" path error

def tee : Tool := fun arguments => do
  let given ← (usageOf "tee" 1 "aip" [('a', "append"), ('i', "ignore-interrupts")]).read arguments
  let bytes ← requireInput "tee"
  printBytes bytes
  forEach (teeInto given bytes) given.operands
  finish

def modeOf : Entry → Nat
  | .directory => 0o755
  | .file _ true => 0o755
  | .file _ false => 0o644
  | .tool _ => 0o755

/-- Whether what has a mode can be run, by what a change of modes makes of it. -/
def changedMode? (executable : Bool) (change : String) : Option Bool :=
  let text := change.toList
  if !text.isEmpty && text.all octalDigit then
    some (text.any fun digit => "1357".toList.contains digit)
  else
    (change.splitOn ",").foldl (fun before clause =>
      before.bind fun now =>
        let behind := clause.toList.dropWhile fun who => "ugoa".toList.contains who
        match behind with
        | operator :: kinds =>
            if !"+-=".toList.contains operator ||
                !(kinds.all fun kind => "rwxXstugo".toList.contains kind) then none
            else if kinds.contains 'x' then some (operator != '-')
            else if operator = '=' then some false
            else some now
        | [] => none) (some executable)
where
  octalDigit (digit : Char) : Bool := decide ('0' ≤ digit ∧ digit ≤ '7')

def changeMode (change path : String) : Chore Unit := do
  let files := (← get).files
  match files.locate (nameOfText path) with
  | .error error => could "chmod" "cannot access" path error
  | .ok location =>
      match files.get? location with
      | some (.file content executable) =>
          let changed := (changedMode? executable change).getD executable
          modify fun desk => { desk with files := files.put location (.file content changed) }
      | _ => return

def chmod : Tool := fun arguments => do
  let isChange (word : String) : Bool :=
    word.startsWith "-" && (changedMode? false word).isSome && !word.startsWith "-R"
  let changes := arguments.filter isChange
  let given ← (usageOf "chmod" 1 "Rvfc" [('R', "recursive")]).read
    (arguments.filter fun word => !isChange word)
  match changes ++ given.operands with
  | [] => missingOperand "chmod"
  | [change] => do
      say ("chmod: missing operand after " ++ quotedName change)
      fail 1 "Try 'chmod --help' for more information."
  | change :: paths =>
      if (changedMode? false change).isNone then do
        say ("chmod: invalid mode: " ++ quotedName change)
        fail 1 "Try 'chmod --help' for more information."
      else do
        forEach (changeMode change) paths
        finish

def sortedTexts (texts : List String) : List String :=
  texts.mergeSort fun left right => decide (left ≤ right)

def listedNames (given : Given) (files : FileSystem) (location : Location) : List String :=
  let names := sortedTexts ((files.namesAt location).map textOfName)
  let shown :=
    if given.has 'a' then "." :: ".." :: names
    else if given.has 'A' then names
    else names.filter fun name => !name.startsWith "."
  if given.has 'r' then shown.reverse else shown

def markedName (given : Given) (files : FileSystem) (location : Location) (name : String) :
    String :=
  let entry := if name == "." || name == ".." then some .directory
    else files.get? (location ++ [nameOfText name])
  match entry with
  | some .directory => if given.has 'F' || given.has 'p' then name ++ "/" else name
  | some found => if given.has 'F' && found.isExecutable then name ++ "*" else name
  | none => name

/-- Lists a directory and, if wanted, those in it; `fuel` bounds how deep they are. -/
def listDirectory (given : Given) (files : FileSystem) (titled : Bool) :
    (fuel : Nat) → String → Location → Chore Unit
  | 0, _, _ => return
  | fuel + 1, path, location => do
      if titled then printLine (path ++ ":")
      let names := listedNames given files location
      forEach (fun name => printLine (markedName given files location name)) names
      if given.has 'R' then
        forEach (fun name => do
          let below := location ++ [nameOfText name]
          if name != "." && name != ".." && files.isDirectoryAt below then
            printLine ""
            listDirectory given files true fuel (path ++ "/" ++ name) below) names

def ls : Tool := fun arguments => do
  let given ← (usageOf "ls" 2 "1aACdFhilnopqrRsStuUvxX" [('a', "all"), ('A', "almost-all"),
    ('d', "directory"), ('r', "reverse"), ('R', "recursive")]).read arguments
  let files := (← get).files
  let operands := if given.operands.isEmpty then ["."] else sortedTexts given.operands
  let ordered := if given.has 'r' then operands.reverse else operands
  let located := ordered.map fun path => (path, files.locate (nameOfText path))
  forEach (fun (path, found) => match found with
    | .error error =>
        note 2 ("ls: cannot access " ++ quotedName path ++ ": " ++ SystemError.reason error)
    | .ok _ => pure ()) located
  let present := located.filterMap fun (path, found) =>
    found.toOption.map fun location => (path, location)
  let isFolder (entry : String × Location) : Bool :=
    !given.has 'd' && files.isDirectoryAt entry.2
  let plain := present.filter fun entry => !isFolder entry
  let folders := present.filter isFolder
  forEach (fun entry => printLine entry.1) plain
  let titled := 1 < ordered.length || given.has 'R'
  showEach given files titled plain.isEmpty folders
  finish
where
  showEach (given : Given) (files : FileSystem) (titled isFirst : Bool) :
      List (String × Location) → Chore Unit
    | [] => return
    | (path, location) :: rest => do
        if !isFirst then printLine ""
        listDirectory given files titled (files.entries.length + 1) path location
        showEach given files titled false rest

def sizeOf : Entry → Nat
  | .file content _ => content.length
  | .directory => 4096
  | .tool _ => 0

def statText (path : String) (entry : Entry) : Char → String
  | 's' => toString (sizeOf entry)
  | 'n' => path
  | 'N' => quotedName path
  | 'a' => String.ofList (Nat.toDigits 8 (modeOf entry))
  | 'F' =>
      match entry with
      | .directory => "directory"
      | _ => if sizeOf entry = 0 then "regular empty file" else "regular file"
  | 'u' => "0"
  | 'g' => "0"
  | 'U' => "root"
  | 'G' => "root"
  | 'h' => "1"
  | '%' => "%"
  | _ => "?"

def statFormat (path : String) (entry : Entry) : List Char → String
  | '%' :: directive :: rest => statText path entry directive ++ statFormat path entry rest
  | character :: rest => character.toString ++ statFormat path entry rest
  | [] => ""

def stat : Tool := fun arguments => do
  let given ← (usageOf "stat" 1 "c:fLt" [('c', "format")]).read arguments
  if given.operands.isEmpty then missingOperand "stat"
  else
    forEach (fun path => do
      match ← locate path with
      | .error error => could "stat" "cannot statx" path error
      | .ok location =>
          let entry := ((← get).files.get? location).getD .directory
          printLine (statFormat path entry ((given.value? 'c').getD "%n").toList)) given.operands
    finish

def newSize? (text : String) (old : Nat) : Option Nat :=
  let isNumber (digits : List Char) : Option Nat :=
    if digits.isEmpty || !digits.all Char.isDigit then none else (String.ofList digits).toNat?
  match text.toList with
  | '+' :: digits => (isNumber digits).map (old + ·)
  | '-' :: digits => (isNumber digits).map (old - ·)
  | digits =>
      let number := digits.takeWhile Char.isDigit
      match isNumber number, String.ofList (digits.drop number.length) with
      | some count, "" => some count
      | some count, "K" => some (count * 1024)
      | some count, "k" => some (count * 1024)
      | some count, "M" => some (count * 1048576)
      | _, _ => none

def truncate : Tool := fun arguments => do
  let given ← (usageOf "truncate" 1 "cs:r:o" [('s', "size"), ('c', "no-create")]).read arguments
  match given.value? 's' with
  | none => do
      say "truncate: you must specify either '--size' or '--reference'"
      fail 1 "Try 'truncate --help' for more information."
  | some size => do
      if given.operands.isEmpty then
        say "truncate: missing file operand"
        fail 1 "Try 'truncate --help' for more information."
      else
        forEach (fun path => do
          let old ← match ← entryAt path with
            | some (.file content _) => pure content
            | _ => pure []
          match newSize? size old.length with
          | none => fail 1 ("truncate: Invalid number: " ++ quotedName size)
          | some length =>
              let content := old.take length ++ List.replicate (length - old.length) 0
              match ← writeFile path content with
              | .ok () => return
              | .error error => could "truncate" "cannot open" (path ++ "' for writing") error)
            given.operands
        finish

/-- The first place where two contents differ, counted from one, with the line it is in. -/
def difference? : (place line : Nat) → List UInt8 → List UInt8 → Option (Nat × Nat)
  | place, line, left :: lefts, right :: rights =>
      if left = right then
        difference? (place + 1) (if left = lineFeed then line + 1 else line) lefts rights
      else some (place, line)
  | _, _, _, _ => none

def cmp : Tool := fun arguments => do
  let hint := "cmp: Try 'cmp --help' for more information."
  let usage : Usage := { usageOf "cmp" 2 "bsln:i:" [('s', "silent")] with hints := [hint] }
  let given ← usage.read arguments
  match given.operands with
  | [] => do
      say "cmp: missing operand after 'cmp'"
      fail 2 hint
  | first :: others => do
      let second := others.headD "-"
      let read (path : String) : Chore (List UInt8) := do
        match ← contentOf path with
        | .ok bytes => return bytes
        | .error error => fail 2 ("cmp: " ++ path ++ ": " ++ error.reason)
      let left ← read first
      let right ← read second
      match difference? 1 1 left right with
      | some (place, line) => do
          if !given.has 's' then
            printLine (first ++ " " ++ second ++ " differ: char " ++ toString place ++
              ", line " ++ toString line)
          return 1
      | none =>
          if left.length = right.length then return 0
          else
            let (short, content) :=
              if left.length < right.length then (first, left) else (second, right)
            if !given.has 's' then
              say (if content.isEmpty then "cmp: EOF on " ++ short ++ " which is empty"
                else
                  let lines := content.count lineFeed
                  "cmp: EOF on " ++ short ++ " after byte " ++ toString content.length ++
                    (if content.getLast? == some lineFeed then
                      ", line " ++ toString lines
                    else ", in line " ++ toString (lines + 1)))
            return 1

end CircuitDiagram.Shell.Tool
