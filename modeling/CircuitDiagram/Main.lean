import CircuitDiagram.CommandLine.Effect

/-!
The program. It reads its options and its document, carries out what the session wants done, and
prints what the session prints.
-/

namespace CircuitDiagram.CommandLine

def systemErrorOf : IO.Error → SystemError
  | .alreadyExists _ number _ => .numbered number.toNat
  | .otherError number _ => .numbered number.toNat
  | .resourceBusy number _ => .numbered number.toNat
  | .resourceVanished number _ => .numbered number.toNat
  | .unsupportedOperation number _ => .numbered number.toNat
  | .hardwareFault number _ => .numbered number.toNat
  | .unsatisfiedConstraints number _ => .numbered number.toNat
  | .illegalOperation number _ => .numbered number.toNat
  | .protocolError number _ => .numbered number.toNat
  | .timeExpired number _ => .numbered number.toNat
  | .interrupted _ number _ => .numbered number.toNat
  | .noFileOrDirectory _ _ _ => .notFound
  | .invalidArgument _ number _ => .numbered number.toNat
  | .permissionDenied _ number _ => .numbered number.toNat
  | .resourceExhausted _ number _ => .numbered number.toNat
  | .inappropriateType _ number _ => .numbered number.toNat
  | .noSuchThing _ number _ => .numbered number.toNat
  | .unexpectedEof => .told "unexpected end of file"
  | .userError text => .told text

def attempt {α : Type} (action : IO α) : IO (Except SystemError α) := do
  try
    return .ok (← action)
  catch error => return .error (systemErrorOf error)

partial def readAll (stream : IO.FS.Stream) (read : ByteArray) : IO ByteArray := do
  let more ← stream.read 65536
  if more.isEmpty then return read else readAll stream (read ++ more)

def environmentOf (names : List String) : IO (List (String × String)) :=
  names.filterMapM fun name => do
    return (← IO.getEnv name).map fun value => (name, value)

def carryOut : Effect → IO Unit
  | .makeDirectories path => if path.isEmpty then return else IO.FS.createDirAll path
  | .writeFile path content => IO.FS.writeBinFile path (ByteArray.mk content.toArray)

/-- Carries effects out in order; the first that fails decides how the session ends. -/
def carryOutAll (ended : Ended) : List Effect → IO Ended
  | [] => return ended
  | effect :: rest => do
      match ← attempt (carryOut effect) with
      | .ok () => carryOutAll ended rest
      | .error error => return effect.refused error

def readDocument (options : Options) : IO (Except SystemError (List UInt8)) := do
  match options.input with
  | none => standardInput
  | some path =>
      if isInputName path then standardInput
      else attempt do return (← IO.FS.readBinFile path).toList
where
  standardInput : IO (Except SystemError (List UInt8)) :=
    attempt do return (← readAll (← IO.getStdin) ByteArray.empty).toList

def usage : String :=
  "usage: [-o DIR] [-T pdf|svg|png|dot] [--dot-bin PROGRAM] [--keep-source] " ++
    "[--name-by key|index] [--no-edge-labels] [--print-dot] [path-to-json]\n"

def start (arguments : List String) : IO UInt32 := do
  let environment ← environmentOf ["CIRCUIT_VIS_DOT", "CIRCUIT_VIS_OUTPUT_DIR"]
  match readOptions arguments environment with
  | .error .usage => do
      IO.eprint usage
      return 2
  | .error .help => do
      IO.print usage
      return 0
  | .ok options => do
      let read ← readDocument options
      let (ended, effects) :=
        rehearse ⟨arguments, environment, read⟩ options read
      let last ← carryOutAll ended effects
      IO.print last.output
      IO.eprint last.complaints
      return UInt32.ofNat last.code

end CircuitDiagram.CommandLine

def main (arguments : List String) : IO UInt32 :=
  CircuitDiagram.CommandLine.start arguments
