import CircuitDiagram.Host
import CircuitDiagram.Path
import CircuitDiagram.Text.Symbol

/-!
Files and directories, by their location from the root. Paths are resolved name by name from
the working directory, every name but the last in a directory that is there; what goes wrong is
told as a system error.
-/

namespace CircuitDiagram

inductive Entry where
  | directory
  | file (content : List UInt8) (executable : Bool)
  | tool (name : String)
  deriving DecidableEq, Repr

namespace Entry

def isExecutable : Entry → Bool
  | directory => true
  | file _ executable => executable
  | tool _ => true

def hasSize : Entry → Bool
  | file content _ => !content.isEmpty
  | _ => true

end Entry

abbrev Location := List String

structure FileSystem where
  entries : List (Location × Entry)
  working : Location

def encodeText (text : String) : List UInt8 :=
  text.toList.flatMap String.utf8EncodeChar

namespace FileSystem

def longestName : Nat := 255
def longestPath : Nat := 4095

def get? (files : FileSystem) (location : Location) : Option Entry :=
  if location.isEmpty then some .directory else files.entries.lookup location

def putEntry (location : Location) (entry : Entry) :
    List (Location × Entry) → List (Location × Entry)
  | [] => [(location, entry)]
  | (other, old) :: rest =>
      if other = location then (location, entry) :: rest
      else (other, old) :: putEntry location entry rest

def put (files : FileSystem) (location : Location) (entry : Entry) : FileSystem :=
  { files with entries := putEntry location entry files.entries }

def remove (files : FileSystem) (location : Location) : FileSystem :=
  { files with entries := files.entries.filter fun entry => entry.1 != location }

variable (files : FileSystem)

def isDirectoryAt (location : Location) : Bool :=
  files.get? location == some .directory

def step (location : Location) (name : String) : Except SystemError Location :=
  -- A file has no entries, not even the one that stays where it is.
  if !files.isDirectoryAt location then .error .notDirectory
  else if name.isEmpty || name == "." then .ok location
  else if name == ".." then .ok location.dropLast
  else if longestName < name.utf8ByteSize then .error .nameTooLong
  else if (files.get? (location ++ [name])).isSome then .ok (location ++ [name])
  else .error .notFound

def walk (location : Location) : List String → Except SystemError Location
  | [] => .ok location
  | name :: rest =>
      match files.step location name with
      | .error error => .error error
      | .ok next => walk next rest

def start (path : String) : Location :=
  if Path.isAbsolute path then [] else files.working

/-- The names of a path that the system is willing to look up. -/
def namesOf (path : String) : Except SystemError (List String) :=
  if path.toList.contains '\x00' then .error .nulInPath
  else if path.isEmpty then .error .notFound
  else if longestPath < path.utf8ByteSize then .error .nameTooLong
  else .ok (Path.names path)

def locate (path : String) : Except SystemError Location :=
  match namesOf path with
  | .error error => .error error
  | .ok names => files.walk (files.start path) names

def isDirectory (path : String) : Bool :=
  match files.locate path with
  | .ok location => files.isDirectoryAt location
  | .error _ => false

def readFile (path : String) : Except SystemError (List UInt8) :=
  match files.locate path with
  | .error error => .error error
  | .ok location =>
      match files.get? location with
      | some (.file content _) => .ok content
      | some (.tool _) => .ok []
      | some .directory => .error .isDirectory
      | none => .error .notFound

def parent (path : String) (names : List String) : Except SystemError (Location × String) :=
  match files.walk (files.start path) names.dropLast with
  | .error error => .error error
  | .ok location =>
      if files.isDirectoryAt location then .ok (location, names.getLastD "")
      else .error .notDirectory

def isPlainName (name : String) : Bool :=
  !(name.isEmpty || name == "." || name == "..")

def withoutTrailing (names : List String) : List String :=
  (names.reverse.dropWhile String.isEmpty).reverse

def fileLocation (path : String) : Except SystemError Location :=
  match namesOf path with
  | .error error => .error error
  | .ok names =>
      match files.parent path (withoutTrailing names) with
      | .error error => .error error
      | .ok (location, name) =>
          if !isPlainName name || Path.endsWithSlash path then .error .isDirectory
          else if longestName < name.utf8ByteSize then .error .nameTooLong
          else if files.isDirectoryAt (location ++ [name]) then .error .isDirectory
          else .ok (location ++ [name])

def isExecutableAt (location : Location) : Bool :=
  match files.get? location with
  | some .directory => false
  | some entry => entry.isExecutable
  | none => false

/-- Whatever is written there is lost. -/
def nullDevice : Location := ["dev", "null"]

/-- Gives a file its content; a file that is there stays executable if it was. -/
def fill (location : Location) (content : List UInt8) : FileSystem :=
  if location = nullDevice then files
  else files.put location (.file content (files.isExecutableAt location))

def writeFile (path : String) (content : List UInt8) : Except SystemError Unit × FileSystem :=
  match files.fileLocation path with
  | .error error => (.error error, files)
  | .ok location => (.ok (), files.fill location content)

def makeDirectory (path : String) : Except SystemError Unit × FileSystem :=
  match namesOf path with
  | .error error => (.error error, files)
  | .ok names =>
      match files.parent path (withoutTrailing names) with
      | .error error => (.error error, files)
      | .ok (location, name) =>
          if !isPlainName name then (.error .alreadyExists, files)
          else if longestName < name.utf8ByteSize then (.error .nameTooLong, files)
          else if (files.get? (location ++ [name])).isSome then (.error .alreadyExists, files)
          else (.ok (), files.put (location ++ [name]) .directory)

/-- The directories that are missing of some paths, innermost first, up to one that can be made
or is there; that one has been made. -/
def missing : List String → Except SystemError (List String) × FileSystem
  | [] => (.ok [], files)
  | path :: outer =>
      match files.makeDirectory path with
      | (.ok (), made) => (.ok [], made)
      | (.error error, _) =>
          if error = .notFound then
            match missing outer with
            | (.ok others, made) => (.ok (path :: others), made)
            | (.error failure, made) => (.error failure, made)
          -- What is there already will do if it is a directory.
          else if error = .alreadyExists && files.isDirectory path then (.ok [], files)
          else (.error error, files)

def makeEach (files : FileSystem) : List String → Except SystemError Unit × FileSystem
  | [] => (.ok (), files)
  | path :: rest =>
      match files.makeDirectory path with
      | (.ok (), made) => makeEach made rest
      | (.error error, _) =>
          if error = .alreadyExists && files.isDirectory path then makeEach files rest
          else (.error error, files)

def makeDirectories (path : String) : Except SystemError Unit × FileSystem :=
  match files.missing (Path.ancestors path) with
  | (.error error, made) => (.error error, made)
  | (.ok paths, made) => makeEach made paths.reverse

def programNames : List String := [
  "true", "false", "sync", "echo", "printf", "test", "[", "cat", "head", "tail", "tac", "rev", "nl",
  "wc", "tr", "cut", "paste", "fold", "comm", "sort", "uniq", "grep", "egrep", "fgrep", "sed",
  "tee", "touch", "rm", "unlink", "mkdir", "rmdir", "cp", "mv", "ln", "chmod", "ls", "stat",
  "truncate", "cmp", "seq", "expr", "basename", "dirname", "yes", "sleep", "pwd", "printenv",
  "realpath", "readlink", "whoami", "id", "uname", "dd", "od", "which", "gzip", "perl", "mount",
  "umount", "more", "kill", "su", "getopt", "flock", "mktemp", "hostname", "sh", "dash", "bash",
  "env", "xargs", "timeout", "nice", "nohup", "setsid", "stdbuf"]

def fresh : FileSystem :=
  let working := ["tmp", "work"]
  let directories := [["bin"], ["usr"], ["usr", "bin"], ["dev"], ["etc"], ["tmp"], working]
  let tools (directory : Location) : List (Location × Entry) :=
    programNames.map fun name => (directory ++ [name], .tool name)
  ⟨directories.map (fun location => (location, .directory)) ++
      (nullDevice, .file [] false) :: tools ["bin"] ++ tools ["usr", "bin"],
    working⟩

def beneath? : Location → Location → Option Location
  | [], location => some location
  | _ :: _, [] => none
  | name :: rest, other :: location => if name = other then beneath? rest location else none

def namesAt (location : Location) : List String :=
  files.entries.filterMap fun entry =>
    match beneath? location entry.1 with
    | some [name] => some name
    | _ => none

/-- The files as a host. What it takes to start a program is not theirs to say. -/
def host (start : Starter FileSystem) : Host FileSystem where
  makeDirectories path files := files.makeDirectories path
  readFile path files := files.readFile path
  writeFile path content files := files.writeFile path content
  start := start

end FileSystem

end CircuitDiagram
