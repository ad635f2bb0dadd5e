/-!
Paths as texts. A path is a row of names between slashes; it is absolute when it begins with a
slash. Names that are empty or a single dot lead nowhere and are left out when paths are
compared, except for a dot at the very beginning. Paths that are not text have no counterpart.
-/

namespace CircuitDiagram.Path

def isAbsolute (path : String) : Bool :=
  path.toList.head? == some '/'

def endsWithSlash (path : String) : Bool :=
  path.toList.getLast? == some '/'

def join (directory name : String) : String :=
  if isAbsolute name then name
  else if directory.isEmpty || endsWithSlash directory then directory ++ name
  else directory ++ "/" ++ name

def withExtension (stem extension : String) : String :=
  stem ++ "." ++ extension

def splitAtSlashes : List Char → List (List Char)
  | [] => [[]]
  | character :: rest =>
      match splitAtSlashes rest with
      | [] => [[character]]
      | first :: others =>
          if character = '/' then [] :: first :: others
          else (character :: first) :: others

def names (path : String) : List String :=
  (splitAtSlashes path.toList).map String.ofList

/-- The names that count: of the dots only a first one does. -/
def components (path : String) : List String :=
  match names path with
  | [] => []
  | first :: rest =>
      (if first.isEmpty then [] else [first]) ++
        rest.filter fun name => !(name.isEmpty || name == ".")

def assemble (absolute : Bool) (parts : List String) : String :=
  (if absolute then "/" else "") ++ String.intercalate "/" parts

/-- The path and the directories it goes through, innermost first; neither the root nor the
empty path is one of them. -/
def ancestors (path : String) : List String :=
  let parts := components path
  if parts.isEmpty then []
  else path :: ((List.range parts.length).drop 1).reverse.map fun count =>
    assemble (isAbsolute path) (parts.take count)

end CircuitDiagram.Path
