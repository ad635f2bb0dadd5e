import CircuitDiagram.Machine.Shell.Expansion

/-!
Signals between processes. A signal waits until the command is done during which it comes; then a
process ignores it, does what it has been told to do, or ends.
-/

namespace CircuitDiagram.Shell

open Work

def signalNumber? (word : String) : Option Nat :=
  match word.toNat? with
  | some number => if number ≤ 64 then some number else none
  | none =>
      let name := String.ofList (word.toList.map Char.toUpper)
      if name == "EXIT" then some 0 else (signalNames.findIdx? (· == name)).map (· + 1)

def signalLabel (number : Nat) : String :=
  if number = 0 then "EXIT" else (signalName? number).getD (toString number)

def harmlessSignals : List Nat := [0, 17, 18, 19, 20, 21, 22, 23, 28]

def certainSignals : List Nat := [9, 19]

def receive (runner : Runner) (number : Nat) : Work Unit := do
  let state ← get
  match if certainSignals.contains number then none else state.trap? number with
  | some text =>
      if text.isEmpty then return
      else
        runScript runner 1 text
        setStatus state.status
  | none =>
      if harmlessSignals.contains number then return else throw (.signal number)

def receiveEach (runner : Runner) : List Nat → Work Unit
  | [] => return
  | number :: rest => do
      receive runner number
      receiveEach runner rest

def deliver (runner : Runner) : Work Unit := do
  let state ← get
  let mine := state.system.signals.filter fun entry => entry.1 == state.process
  if mine.isEmpty then return
  else
    set { state with
      system :=
        { state.system with
          signals := state.system.signals.filter fun entry => entry.1 != state.process } }
    receiveEach runner (mine.map Prod.snd)

def send (process number : Nat) : Work Bool := do
  let state ← get
  if process = state.process || state.parents.contains process then
    if number != 0 then
      set { state with
        system := { state.system with signals := state.system.signals ++ [(process, number)] } }
    return true
  else return false

end CircuitDiagram.Shell
