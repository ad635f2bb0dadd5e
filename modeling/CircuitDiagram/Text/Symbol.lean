/-!
Text as it arrives: characters, and runs of bytes that encode none. `segment` cuts a byte
string into symbols by the rules of UTF-8; a malformed run is as long as some well-formed
character could have begun with it, and never empty. Reading strictly wants characters only;
reading leniently puts U+FFFD in the place of each run.
-/

namespace CircuitDiagram

inductive Symbol where
  | scalar (character : Char)
  | broken (first : UInt8) (more : List UInt8)
  deriving DecidableEq, Repr, Inhabited

namespace Symbol

def width : Symbol → Nat
  | scalar character => character.utf8Size
  | broken _ more => more.length + 1

def character? : Symbol → Option Char
  | scalar character => some character
  | broken _ _ => none

/-- The character shown for a symbol when malformed runs are tolerated. -/
def lenient : Symbol → Char
  | scalar character => character
  | broken _ _ => '\uFFFD'

/-- A character of which the first bytes have been seen: those bytes, how many are missing,
the range of the next one, and the code point so far. -/
structure Unfinished where
  first : UInt8
  more : List UInt8
  missing : Nat
  low : UInt8
  high : UInt8
  code : Nat

/-- What a byte that begins a character of several bytes promises. The range of the second byte
keeps out overlong forms, surrogates and code points past U+10FFFF. -/
def Unfinished.begin? (byte : UInt8) : Option Unfinished :=
  let code := byte.toNat
  if 0xC2 ≤ byte ∧ byte ≤ 0xDF then some ⟨byte, [], 1, 0x80, 0xBF, code - 0xC0⟩
  else if byte = 0xE0 then some ⟨byte, [], 2, 0xA0, 0xBF, code - 0xE0⟩
  else if byte = 0xED then some ⟨byte, [], 2, 0x80, 0x9F, code - 0xE0⟩
  else if 0xE1 ≤ byte ∧ byte ≤ 0xEF then some ⟨byte, [], 2, 0x80, 0xBF, code - 0xE0⟩
  else if byte = 0xF0 then some ⟨byte, [], 3, 0x90, 0xBF, code - 0xF0⟩
  else if 0xF1 ≤ byte ∧ byte ≤ 0xF3 then some ⟨byte, [], 3, 0x80, 0xBF, code - 0xF0⟩
  else if byte = 0xF4 then some ⟨byte, [], 3, 0x80, 0x8F, code - 0xF0⟩
  else none

def Unfinished.accepts (unfinished : Unfinished) (byte : UInt8) : Bool :=
  decide (unfinished.low ≤ byte ∧ byte ≤ unfinished.high)

def Unfinished.extend (unfinished : Unfinished) (byte : UInt8) : Nat :=
  unfinished.code * 64 + (byte.toNat - 0x80)

def Unfinished.push (unfinished : Unfinished) (byte : UInt8) : Unfinished :=
  { unfinished with
    more := unfinished.more ++ [byte]
    missing := unfinished.missing - 1
    low := 0x80
    high := 0xBF
    code := unfinished.extend byte }

def segmentFrom : Option Unfinished → List UInt8 → List Symbol
  | none, [] => []
  | some unfinished, [] => [broken unfinished.first unfinished.more]
  | none, byte :: rest =>
      if byte < 0x80 then scalar (Char.ofNat byte.toNat) :: segmentFrom none rest
      else match Unfinished.begin? byte with
        | some begun => segmentFrom (some begun) rest
        | none => broken byte [] :: segmentFrom none rest
  | some unfinished, byte :: rest =>
      if unfinished.accepts byte then
        if unfinished.missing ≤ 1 then
          scalar (Char.ofNat (unfinished.extend byte)) :: segmentFrom none rest
        else segmentFrom (some (unfinished.push byte)) rest
      else
        -- The byte that does not go on with the character may begin another one.
        broken unfinished.first unfinished.more ::
          if byte < 0x80 then scalar (Char.ofNat byte.toNat) :: segmentFrom none rest
          else match Unfinished.begin? byte with
            | some begun => segmentFrom (some begun) rest
            | none => broken byte [] :: segmentFrom none rest

def segment (bytes : List UInt8) : List Symbol :=
  segmentFrom none bytes

def ofString (text : String) : List Symbol :=
  text.toList.map scalar

def strict? (bytes : List UInt8) : Option String :=
  ((segment bytes).mapM character?).map String.ofList

def lossy (bytes : List UInt8) : String :=
  String.ofList ((segment bytes).map lenient)

end Symbol

abbrev Source := List Symbol

def totalWidth : Source → Nat
  | [] => 0
  | symbol :: rest => symbol.width + totalWidth rest

end CircuitDiagram
