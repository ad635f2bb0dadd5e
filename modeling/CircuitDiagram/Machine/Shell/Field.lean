import CircuitDiagram.Machine.Shell.Octets
import CircuitDiagram.Machine.Shell.Pattern

/-!
Fields. A word becomes pieces when its parts are replaced, and the pieces become fields: what was
not quoted is cut at separators, and a pattern gives way to the paths that it stands for.
-/

namespace CircuitDiagram.Shell

inductive Piece where
  | text (text : String) (quoted : Bool)
  | loose (text : String)
  | mark
  /-- The place between two fields; a hard one keeps empty fields apart. -/
  | gap (hard : Bool)
  deriving DecidableEq, Repr

def Field.text (field : Field) : String :=
  String.ofList (field.map Prod.fst)

/-- What may be passed behind the end of a field: blanks, and one other separator before them. -/
inductive Passing where
  | nothing
  | blanks
  | blanksAndOne
  deriving DecidableEq, Repr

/-- Fields that are complete, last first; the characters of the next one, last first; whether
there is a next one; and what may be passed here. -/
structure Cut where
  complete : List Field
  current : Field
  begun : Bool
  passing : Passing

def isBlankSeparator (character : Char) : Bool :=
  character = ' ' || character = '\t' || character = '\n'

namespace Cut

def start : Cut := ⟨[], [], false, .nothing⟩

def close (cut : Cut) (passing : Passing) : Cut :=
  ⟨cut.current.reverse :: cut.complete, [], false, passing⟩

def begin (cut : Cut) : Cut :=
  { cut with begun := true, passing := .nothing }

def push (character : Char) (quoted : Bool) (cut : Cut) : Cut :=
  { cut.begin with current := (character, quoted) :: cut.current }

/-- Blank separators count as one, also with another one among them; each other one ends a
field, be it empty. -/
def separate (cut : Cut) (character : Char) : Cut :=
  if isBlankSeparator character then
    if cut.begun then cut.close .blanksAndOne else cut
  else if cut.passing = .blanksAndOne then { cut with passing := .blanks }
  else cut.close .blanks

def addLoose (separators : List Char) (cut : Cut) (character : Char) : Cut :=
  if separators.contains character then cut.separate character else cut.push character false

def add (separators : List Char) (cut : Cut) : Piece → Cut
  | .text text quoted =>
      text.toList.foldl (fun cut character => cut.push character quoted) cut
  | .loose text => text.toList.foldl (addLoose separators) cut
  | .mark => cut.begin
  | .gap true => (cut.close .nothing).begin
  | .gap false => if cut.begun then cut.close .blanksAndOne else cut

end Cut

def cutPieces (separators : List Char) (pieces : List Piece) : List Field :=
  let cut := pieces.foldl (Cut.add separators) Cut.start
  (if cut.begun then cut.close .nothing else cut).complete.reverse

def Piece.characters : Piece → Field
  | .text value quoted => value.toList.map fun character => (character, quoted)
  | .loose value => value.toList.map fun character => (character, false)
  | .mark => []
  | .gap _ => [(' ', true)]

def joinPieces (pieces : List Piece) : Field :=
  pieces.flatMap Piece.characters

def Field.isPattern (field : Field) : Bool :=
  field.any fun (character, quoted) => !quoted && "*?[".toList.contains character

def Field.names : Field → List Field
  | [] => [[]]
  | (character, quoted) :: rest =>
      match Field.names rest with
      | [] => [[(character, quoted)]]
      | first :: others =>
          if character = '/' then [] :: first :: others
          else ((character, quoted) :: first) :: others

def namesIn (files : FileSystem) (location : Location) : List String :=
  ((files.namesAt location).map textOfName).mergeSort fun left right => decide (left ≤ right)

def isHiddenName (name : String) : Bool :=
  name.toList.head? == some '.'

/-- The names in a directory that a pattern stands for; hidden ones only if it says so. -/
def matchingNames (files : FileSystem) (location : Location) (field : Field) : List String :=
  (namesIn files location).filter fun name =>
    (!isHiddenName name || isHiddenName field.text) &&
      matchesPattern (pattern field) name.toList

/-- The paths that begin with `before` and go on with names that the fields stand for. -/
def matchingPaths (files : FileSystem) (before : String) : List Field → List String
  | [] => []
  | [field] =>
      if field.isPattern then
        match files.locate (nameOfText (if before.isEmpty then "." else before)) with
        | .error _ => []
        | .ok location => (matchingNames files location field).map (before ++ ·)
      else
        match files.locate (nameOfText (before ++ field.text)) with
        | .error _ => []
        | .ok _ => [before ++ field.text]
  | field :: rest =>
      if field.isPattern then
        match files.locate (nameOfText (if before.isEmpty then "." else before)) with
        | .error _ => []
        | .ok location =>
            (matchingNames files location field).flatMap fun name =>
              if files.isDirectory (nameOfText (before ++ name)) then
                matchingPaths files (before ++ name ++ "/") rest
              else []
      else matchingPaths files (before ++ field.text ++ "/") rest

/-- The paths for a field that is a pattern for some, and else its text. -/
def Field.spread (files : FileSystem) (field : Field) : List String :=
  if field.isPattern then
    match matchingPaths files "" field.names with
    | [] => [field.text]
    | paths => paths
  else [field.text]

end CircuitDiagram.Shell
