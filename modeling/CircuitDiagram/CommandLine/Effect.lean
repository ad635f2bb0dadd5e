import CircuitDiagram.CommandLine.Session

/-!
Sessions that only say what they want done. Their host notes down every directory and file that
is to be made, and starts no programs; whoever carries the effects out stops at the first that
fails, and the session has failed with it.
-/

namespace CircuitDiagram.CommandLine

inductive Effect where
  | makeDirectories (path : String)
  | writeFile (path : String) (content : List UInt8)
  deriving DecidableEq, Repr

namespace Effect

def path : Effect → String
  | makeDirectories path => path
  | writeFile path _ => path

def refused (effect : Effect) (error : SystemError) : Ended :=
  failed (.unwritableOutput effect.path error)

end Effect

def noPrograms : SystemError := .numbered 38

/-- A host that notes effects, the last first. Reading gives what has been read beforehand. -/
def notingHost (read : Except SystemError (List UInt8)) : Host (List Effect) where
  makeDirectories path noted := (.ok (), .makeDirectories path :: noted)
  readFile _ _ := read
  writeFile path content noted := (.ok (), .writeFile path content :: noted)
  start _ _ _ noted := (.error noPrograms, noted)

def rehearse (console : Console) (options : Options) (read : Except SystemError (List UInt8)) :
    Ended × List Effect :=
  let (ended, noted) := work (notingHost read) console options []
  (ended, noted.reverse)

end CircuitDiagram.CommandLine
