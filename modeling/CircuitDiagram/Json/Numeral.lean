import CircuitDiagram.Json.Taken

/-!
JSON numbers. `readNumeral` takes one apart into its digits. No part of a document is a number,
so its value serves only to say what was found in the place of something else: the whole number
itself if it fits in 64 bits, and otherwise the double that its digits and its power of ten give.
-/

namespace CircuitDiagram.Json

open Decimal (Double tenTo)

def digit? : Symbol → Option Nat
  | .scalar character =>
      if '0' ≤ character ∧ character ≤ '9' then some (character.toNat - '0'.toNat) else none
  | .broken _ _ => none

def isDigit (symbol : Symbol) : Bool :=
  (digit? symbol).isSome

def spanDigits : Source → List Nat × Source
  | [] => ([], [])
  | symbol :: rest =>
      match digit? symbol with
      | some digit =>
          match spanDigits rest with
          | (digits, left) => (digit :: digits, left)
      | none => ([], symbol :: rest)

theorem length_spanDigits (source : Source) :
    (spanDigits source).1.length + (spanDigits source).2.length = source.length := by
  induction source with
  | nil => rfl
  | cons symbol rest ih =>
      simp only [spanDigits]
      split
      · simp_all
        omega
      · simp

theorem length_lt_of_spanDigits {source rest : Source} {digit : Nat} {digits : List Nat}
    (found : spanDigits source = (digit :: digits, rest)) : rest.length < source.length := by
  have parts := length_spanDigits source
  rw [found] at parts
  simp only [List.length_cons] at parts
  omega

def digitFault (atEnd : Cause) : Source → Fault
  | [] => .behind atEnd []
  | symbol :: rest => .upon .badNumber (symbol :: rest)

def readDigits (atEnd : Cause) : Reader (List Nat) := fun source =>
  match found : spanDigits source with
  | ([], _) => .error (digitFault atEnd source)
  | (digit :: digits, rest) => .ok ⟨digit :: digits, rest, length_lt_of_spanDigits found⟩

structure Numeral where
  negative : Bool
  whole : List Nat
  fraction : Option (List Nat)
  exponent : Option (Bool × List Nat)
  deriving DecidableEq, Repr

/-- The digits before the point. A zero stands alone. -/
def readWhole (atEnd : Cause) : Reader (List Nat) := fun source =>
  match readDigits atEnd source with
  | .ok ⟨0 :: _ :: _, _, _⟩ => .error (.upon .badNumber (source.drop 1))
  | result => result

def exponentSign : Source → Bool × Source
  | .scalar '+' :: rest => (false, rest)
  | .scalar '-' :: rest => (true, rest)
  | rest => (false, rest)

theorem length_exponentSign_le (source : Source) :
    (exponentSign source).2.length ≤ source.length := by
  unfold exponentSign
  split <;> simp

theorem length_lt_of_exponent {start rest left : Source} {symbol : Symbol}
    (shorter : (symbol :: rest).length < start.length)
    (within : left.length < (exponentSign rest).2.length) : left.length < start.length := by
  have signed := length_exponentSign_le rest
  simp only [List.length_cons] at shorter
  omega

def startsExponent (symbol : Symbol) : Bool :=
  isCharacter 'e' symbol || isCharacter 'E' symbol

def readExponent {start : Source} (atEnd : Cause) (numeral : Numeral) (source : Source)
    (shorter : source.length < start.length) : Reading Numeral start :=
  match source with
  | [] => .ok ⟨numeral, [], shorter⟩
  | symbol :: rest =>
      if startsExponent symbol then
        match readDigits atEnd (exponentSign rest).2 with
        | .error fault => .error fault
        | .ok ⟨digits, left, within⟩ =>
            .ok ⟨{ numeral with exponent := some ((exponentSign rest).1, digits) }, left,
              length_lt_of_exponent shorter within⟩
      else .ok ⟨numeral, symbol :: rest, shorter⟩

def readFraction {start : Source} (atEnd : Cause) (numeral : Numeral) (source : Source)
    (shorter : source.length < start.length) : Reading Numeral start :=
  match source with
  | [] => .ok ⟨numeral, [], shorter⟩
  | symbol :: rest =>
      if isCharacter '.' symbol then
        match readDigits atEnd rest with
        | .error fault => .error fault
        | .ok ⟨digits, left, within⟩ =>
            readExponent atEnd { numeral with fraction := some digits } left
              (length_lt_of_cons_lt shorter within)
      else readExponent atEnd numeral (symbol :: rest) shorter

def readNumeral (atEnd : Cause) : Reader Numeral := fun source =>
  match source with
  | [] => .error (.behind atEnd [])
  | symbol :: rest =>
      if isCharacter '-' symbol then
        match readWhole atEnd rest with
        | .error fault => .error fault
        | .ok ⟨digits, left, shorter⟩ =>
            readFraction atEnd ⟨true, digits, none, none⟩ left (length_lt_cons_of_lt shorter)
      else
        match readWhole atEnd (symbol :: rest) with
        | .error fault => .error fault
        | .ok ⟨digits, left, shorter⟩ =>
            readFraction atEnd ⟨false, digits, none, none⟩ left shorter

/-- Appends digits to a number while it stays within `limit`, and counts those appended. -/
def appendDigits (limit number count : Nat) : List Nat → Nat × Nat
  | [] => (number, count)
  | digit :: rest =>
      if limit < number * 10 + digit then (number, count)
      else appendDigits limit (number * 10 + digit) (count + 1) rest

def greatestNumber : Nat := 0xFFFFFFFFFFFFFFFF
def greatestExponent : Nat := 0x7FFFFFFF

def greatestNegative : Nat := 0x8000000000000000

def greatestPower : Nat := 308

def scaleUp (number : Double) (exponent : Nat) : Double :=
  if greatestPower < exponent then if number = .zero then .zero else .infinite
  else number.times (tenTo exponent)

def scaleDown (number : Double) (exponent : Nat) : Double :=
  -- Each division rounds, so one by the whole power would come out differently.
  if greatestPower < exponent then
    if number = .zero then .zero
    else scaleDown (number.dividedBy (tenTo greatestPower)) (exponent - greatestPower)
  else number.dividedBy (tenTo exponent)
termination_by exponent
decreasing_by
  have positive : 0 < greatestPower := Nat.succ_pos _
  omega

def scale (number : Nat) (exponent : Int) : Double :=
  if 0 ≤ exponent then scaleUp (.ofNat number) exponent.toNat
  else scaleDown (.ofNat number) (-exponent).toNat

namespace Numeral

variable (numeral : Numeral)

/-- The digits kept of the whole part and their number: a digit that does not fit ends them. -/
def keptWhole : Nat × Nat :=
  appendDigits greatestNumber 0 0 numeral.whole

def kept : Nat × Nat :=
  appendDigits greatestNumber numeral.keptWhole.1 0 (numeral.fraction.getD [])

/-- The power of ten that the kept digits are short of. -/
def shift : Int :=
  Int.ofNat (numeral.whole.length - numeral.keptWhole.2) - Int.ofNat numeral.kept.2

def scaled (exponent : Int) (left : Source) : Except Fault Found :=
  match scale numeral.kept.1 exponent with
  | .infinite => .error (.before .numberTooLarge left)
  | magnitude => .ok (.decimal numeral.negative magnitude)

def found (source left : Source) : Except Fault Found :=
  match numeral.exponent, numeral.fraction with
  | none, none =>
      if numeral.keptWhole.2 < numeral.whole.length then numeral.scaled numeral.shift left
      else if !numeral.negative then .ok (.integer numeral.keptWhole.1)
      else if 0 < numeral.keptWhole.1 ∧ numeral.keptWhole.1 ≤ greatestNegative then
        .ok (.integer (-Int.ofNat numeral.keptWhole.1))
      else .ok (.decimal true (.ofNat numeral.keptWhole.1))
  | none, some _ => numeral.scaled numeral.shift left
  | some (negative, digits), _ =>
      let exponent := appendDigits greatestExponent 0 0 digits
      if exponent.2 < digits.length then
        if numeral.kept.1 = 0 ∨ negative then .ok (.decimal numeral.negative .zero)
        else
          -- The digits behind the one that does not fit are not read any more.
          let extra := digits.length - (exponent.2 + 1)
          .error (.behind .numberTooLarge (source.drop (source.length - left.length - extra)))
      else
        numeral.scaled
          (numeral.shift + if negative then -Int.ofNat exponent.1 else Int.ofNat exponent.1) left

end Numeral

def readFoundNumber : Reader Found := fun source =>
  match readNumeral .valueEnds source with
  | .error fault => .error fault
  | .ok ⟨numeral, left, shorter⟩ =>
      match numeral.found source left with
      | .error fault => .error fault
      | .ok found => .ok ⟨found, left, shorter⟩

def skipNumber : Reader Unit := fun source =>
  match readNumeral .badNumber source with
  | .error fault => .error fault
  | .ok ⟨_, left, shorter⟩ => .ok ⟨(), left, shorter⟩

end CircuitDiagram.Json
