import CircuitDiagram.Machine.Shell.Arithmetic
import CircuitDiagram.Machine.Shell.Octets

/-!
Conditions on texts, numbers and files, as `test` reads them from its words. With up to four words
their number decides what they mean; a word that looks like an operator is an operand where only
an operand makes sense.
-/

namespace CircuitDiagram.Shell.Condition

inductive Kind where
  | unary
  | comparison
  | negation
  | both
  | either
  | opening
  | closing
  deriving DecidableEq, Repr

def unaryOperators : List String :=
  ["-r", "-w", "-x", "-e", "-f", "-d", "-c", "-b", "-p", "-u", "-g", "-k", "-s", "-t", "-z", "-n",
    "-h", "-O", "-G", "-L", "-S"]

def comparisons : List String :=
  ["=", "!=", "<", ">", "-eq", "-ne", "-ge", "-gt", "-le", "-lt", "-nt", "-ot", "-ef"]

def kind? (word : String) : Option Kind :=
  if unaryOperators.contains word then some .unary
  else if comparisons.contains word then some .comparison
  else if word == "!" then some .negation
  else if word == "-a" then some .both
  else if word == "-o" then some .either
  else if word == "(" then some .opening
  else if word == ")" then some .closing
  else none

/-- Whether what looks like an operator with one operand is an operand. -/
def isOperand : List String → Bool
  | [_] => true
  | [_, _] => false
  | _ :: next :: _ => kind? next == some .comparison
  | [] => false

def kindAt : List String → Option Kind
  | [] => none
  | word :: rest =>
      match kind? word with
      | some .unary => if isOperand (word :: rest) then none else some .unary
      | some .opening => if rest.isEmpty then none else some .opening
      | kind => kind

def entryAt? (files : FileSystem) (path : String) : Option Entry :=
  match files.locate (nameOfText path) with
  | .ok location => files.get? location
  | .error _ => none

def isNullDevice (files : FileSystem) (path : String) : Bool :=
  match files.locate (nameOfText path) with
  | .ok location => location == FileSystem.nullDevice
  | .error _ => false

def ask (files : FileSystem) (operator word : String) : Bool :=
  let entry := entryAt? files word
  match operator with
  | "-n" => !word.isEmpty
  | "-z" => word.isEmpty
  | "-d" => entry == some .directory
  | "-f" => (entry.any fun found => found != .directory) && !isNullDevice files word
  | "-c" => isNullDevice files word
  | "-s" => entry.any Entry.hasSize
  | "-x" => entry.any Entry.isExecutable
  | "-t" => false
  | "-h" => false
  | "-L" => false
  | "-b" => false
  | "-p" => false
  | "-S" => false
  | "-u" => false
  | "-g" => false
  | "-k" => false
  | _ => entry.isSome

def number (word : String) : Except String Int :=
  match Arithmetic.leadingNumber? false word.toList with
  | some (value, rest) =>
      if rest.all Arithmetic.isBlank then .ok value else .error ("Illegal number: " ++ word)
  | none => .error ("Illegal number: " ++ word)

def compareNumbers (left right : String) (holds : Int → Int → Bool) : Except String Bool := do
  return holds (← number left) (← number right)

def compare (files : FileSystem) (operator left right : String) : Except String Bool :=
  match operator with
  | "=" => .ok (left == right)
  | "!=" => .ok (left != right)
  | "<" => .ok (decide (left < right))
  | ">" => .ok (decide (right < left))
  | "-eq" => compareNumbers left right fun a b => a == b
  | "-ne" => compareNumbers left right fun a b => a != b
  | "-lt" => compareNumbers left right fun a b => decide (a < b)
  | "-le" => compareNumbers left right fun a b => decide (a ≤ b)
  | "-gt" => compareNumbers left right fun a b => decide (b < a)
  | "-ge" => compareNumbers left right fun a b => decide (b ≤ a)
  | "-nt" => .ok ((entryAt? files left).isSome && (entryAt? files right).isNone)
  | "-ot" => .ok ((entryAt? files left).isNone && (entryAt? files right).isSome)
  | _ =>
      match files.locate (nameOfText left), files.locate (nameOfText right) with
      | .ok first, .ok second => .ok (first == second)
      | _, _ => .ok false

/-- A value, and the words from the last one on that it was read from. -/
abbrev Judged := Except String (Bool × List String)

mutual

def either (files : FileSystem) : (fuel : Nat) → List String → Judged
  | 0, words => .ok (false, words)
  | fuel + 1, words => do
      let (left, last) ← both files fuel words
      if kindAt (last.drop 1) == some .either then
        let (right, behind) ← either files fuel (last.drop 2)
        return (left || right, behind)
      else return (left, last)

def both (files : FileSystem) : (fuel : Nat) → List String → Judged
  | 0, words => .ok (false, words)
  | fuel + 1, words => do
      let (left, last) ← negated files fuel words
      if kindAt (last.drop 1) == some .both then
        let (right, behind) ← both files fuel (last.drop 2)
        return (left && right, behind)
      else return (left, last)

def negated (files : FileSystem) : (fuel : Nat) → List String → Judged
  | 0, words => .ok (false, words)
  | fuel + 1, words => do
      if kindAt words == some .negation then
        if (words.drop 1).isEmpty then return (true, words)
        else
          let (holds, last) ← negated files fuel (words.drop 1)
          return (!holds, last)
      else primary files fuel words

def primary (files : FileSystem) : (fuel : Nat) → List String → Judged
  | 0, words => .ok (false, words)
  | _ + 1, [] => .ok (false, [])
  | fuel + 1, word :: rest => do
      match kindAt (word :: rest) with
      | some .opening =>
          if kindAt rest == some .closing then return (false, rest)
          else
            let (holds, last) ← either files fuel rest
            if kindAt (last.drop 1) == some .closing then return (holds, last.drop 1)
            else throw "closing paren expected"
      | some .unary =>
          match rest with
          | [] => throw (word ++ ": argument expected")
          | operand :: _ =>
              if word == "-t" then discard <| number operand
              return (ask files word operand, rest)
      | _ =>
          match rest with
          | operator :: others =>
              if kindAt rest == some .comparison then
                match others with
                | [] => throw (operator ++ ": argument expected")
                | right :: _ => return (← compare files operator word right, others)
              else return (!word.isEmpty, word :: rest)
          | [] => return (!word.isEmpty, word :: rest)

end

def comparison? (files : FileSystem) (words : List String) : Option Judged :=
  match words with
  | [left, operator, right] =>
      if kind? operator == some .comparison then
        some ((compare files operator left right).map fun holds => (holds, [right]))
      else none
  | _ => none

def judge (files : FileSystem) : (fuel : Nat) → List String → Except String Bool
  | 0, _ => .ok false
  | _ + 1, [] => .ok false
  | fuel + 1, words => do
      let judged ← match comparison? files words with
        | some judged => judged
        | none =>
            let few := words.length = 3 || words.length = 4
            if few && words.head? == some "(" && words.getLast? == some ")" then
              either files (4 * words.length + 8) (words.drop 1).dropLast
            else if few && words.head? == some "!" then do
              return !(← judge files fuel (words.drop 1))
            else either files (4 * words.length + 8) words
      match judged.2 with
      | word :: _ :: _ =>
          throw ((if word.isEmpty then "" else word ++ ": ") ++ "unexpected operator")
      | _ => return judged.1

def holds (files : FileSystem) (words : List String) : Except String Bool :=
  judge files (words.length + 1) words

end CircuitDiagram.Shell.Condition
