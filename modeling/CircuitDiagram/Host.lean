import CircuitDiagram.SystemError

/-!
What renderers ask of the system they run on: directories, files, and programs, which are started
and then waited for. A host answers out of its own state and may refuse anything.
-/

namespace CircuitDiagram

/-- How a program ended: with a code of its own, or by a signal, which may leave an image of it. -/
inductive Status where
  | code (number : Nat)
  | signal (number : Nat) (dumped : Bool)
  deriving DecidableEq, Repr

def signalNames : List String := [
  "HUP", "INT", "QUIT", "ILL", "TRAP", "ABRT", "BUS", "FPE", "KILL", "USR1", "SEGV", "USR2",
  "PIPE", "ALRM", "TERM", "STKFLT", "CHLD", "CONT", "STOP", "TSTP", "TTIN", "TTOU", "URG",
  "XCPU", "XFSZ", "VTALRM", "PROF", "WINCH", "IO", "PWR", "SYS"]

def signalName? (number : Nat) : Option String :=
  if number = 0 then none else signalNames[number - 1]?

namespace Status

/-- The status as a shell counts it: signals come behind all codes below 128. -/
def number : Status → Nat
  | code number => number
  | signal number _ => 128 + number

def succeeded (status : Status) : Bool :=
  status == code 0

def describe : Status → String
  | code number => "exit status: " ++ toString number
  | signal number dumped =>
      let name := match signalName? number with
        | some name => " (SIG" ++ name ++ ")"
        | none => ""
      "signal: " ++ toString number ++ name ++ if dumped then " (core dumped)" else ""

example : describe (signal 6 true) = "signal: 6 (SIGABRT) (core dumped)" := by decide

end Status

/-- What there is of a program that has ended: its status, what it wrote to its error stream, and
the error that its input could not be written for. -/
structure Finished where
  status : Status
  said : List UInt8
  inputError : Option SystemError

structure Process (σ : Type) where
  await : σ → Except SystemError Finished × σ

abbrev Starter (σ : Type) :=
  String → List String → List UInt8 → σ → Except SystemError (Process σ) × σ

structure Host (σ : Type) where
  makeDirectories : String → σ → Except SystemError Unit × σ
  readFile : String → σ → Except SystemError (List UInt8)
  writeFile : String → List UInt8 → σ → Except SystemError Unit × σ
  start : Starter σ

end CircuitDiagram
