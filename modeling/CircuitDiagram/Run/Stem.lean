import CircuitDiagram.Text.LowerCase

/-!
File stems. A circuit's stem is its name without what separates paths, or its position. Stems
are claimed one after the other, and one that is taken, letter case apart, gets the least
number behind it that makes it free.
-/

namespace CircuitDiagram

inductive Naming where
  | key
  | position
  deriving DecidableEq, Repr

def isSeparator (character : Char) : Bool :=
  character == '/' || character == '\\' || character == '\x00'

def stemOfName (name : String) : String :=
  if name.isEmpty then "_"
  else String.ofList (name.toList.map fun character =>
    if isSeparator character then '_' else character)

def Naming.stem (naming : Naming) (name : String) (position : Nat) : String :=
  match naming with
  | .key => stemOfName name
  | .position => toString position

def numbered (stem : String) (number : Nat) : String :=
  stem ++ "-" ++ toString number

/-- The first number from `number` on that is free behind `stem`. After as many attempts as
there are taken stems one of the numbers has been free. -/
def freeNumber (taken : List String) (stem : String) : (attempts : Nat) → (number : Nat) → Nat
  | 0, number => number
  | attempts + 1, number =>
      if Text.lowerCase (numbered stem number) ∈ taken then
        freeNumber taken stem attempts (number + 1)
      else number

def availableStem (taken : List String) (stem : String) : String :=
  if Text.lowerCase stem ∈ taken then numbered stem (freeNumber taken stem taken.length 1)
  else stem

end CircuitDiagram
