import CircuitDiagram.Json.Taken

/-!
JSON strings, read from behind their opening quote. `readText` decodes the escapes and pairs the
surrogates; `skipText` passes a string whose content nobody asked for and looks only at the
form of its escapes.
-/

namespace CircuitDiagram.Json

def hexDigit? (character : Char) : Option Nat :=
  if '0' ≤ character ∧ character ≤ '9' then some (character.toNat - '0'.toNat)
  else if 'a' ≤ character ∧ character ≤ 'f' then some (character.toNat - 'a'.toNat + 10)
  else if 'A' ≤ character ∧ character ≤ 'F' then some (character.toNat - 'A'.toNat + 10)
  else none

def hexNumber? (first second third fourth : Char) : Option Nat :=
  match hexDigit? first, hexDigit? second, hexDigit? third, hexDigit? fourth with
  | some a, some b, some c, some d => some (((a * 16 + b) * 16 + c) * 16 + d)
  | _, _, _, _ => none

/-- Four bytes are taken before they are looked at. -/
def hexFault (source : Source) : Fault :=
  if totalWidth (source.take 4) < 4 then .behind .textEnds []
  else ⟨.badEscape, source, .bytes 4, true⟩

theorem length_lt_cons_fourth {first second third fourth : Symbol} (rest : Source) :
    rest.length < (first :: second :: third :: fourth :: rest).length := by
  simp only [List.length_cons]
  omega

def readHex : Reader Nat
  | .scalar first :: .scalar second :: .scalar third :: .scalar fourth :: rest =>
      match hexNumber? first second third fourth with
      | some number => .ok ⟨number, rest, length_lt_cons_fourth rest⟩
      | none => .error (hexFault
          (.scalar first :: .scalar second :: .scalar third :: .scalar fourth :: rest))
  | source => .error (hexFault source)

def isHighSurrogate (number : Nat) : Bool :=
  decide (0xD800 ≤ number ∧ number ≤ 0xDBFF)

def isLowSurrogate (number : Nat) : Bool :=
  decide (0xDC00 ≤ number ∧ number ≤ 0xDFFF)

@[irreducible]
def characterOfPair (high low : Nat) : Char :=
  Char.ofNat (0x10000 + ((high - 0xD800) * 0x400 + (low - 0xDC00)))

def readLowSurrogate (high : Nat) : Reader Char
  | [] => .error (.behind .textEnds [])
  | slash :: [] =>
      if isCharacter '\\' slash then .error (.behind .textEnds [])
      else .error (.upon .halfSurrogate [slash])
  | slash :: letter :: source =>
      if !isCharacter '\\' slash then .error (.upon .halfSurrogate (slash :: letter :: source))
      else if !isCharacter 'u' letter then .error (.upon .halfSurrogate (letter :: source))
      else match readHex source with
        | .error fault => .error fault
        | .ok ⟨low, rest, shorter⟩ =>
            if isLowSurrogate low then
              .ok ⟨characterOfPair high low, rest,
                length_lt_cons_of_lt (length_lt_cons_of_lt shorter)⟩
            else .error (.behind .loneSurrogate rest)

def readCodeUnit : Reader Char := fun source =>
  match readHex source with
  | .error fault => .error fault
  | .ok ⟨number, rest, shorter⟩ =>
      if isLowSurrogate number then .error (.behind .loneSurrogate rest)
      else if isHighSurrogate number then
        (readLowSurrogate number rest).widen (length_le_of_lt shorter)
      else .ok ⟨Char.ofNat number, rest, shorter⟩

def shortEscape? (letter : Char) : Option Char :=
  match letter with
  | '"' => some '"'
  | '\\' => some '\\'
  | '/' => some '/'
  | 'b' => some '\x08'
  | 'f' => some '\x0c'
  | 'n' => some '\n'
  | 'r' => some '\r'
  | 't' => some '\t'
  | _ => none

def readEscape : Reader Char
  | [] => .error (.behind .textEnds [])
  | .broken first more :: rest => .error (.upon .badEscape (.broken first more :: rest))
  | .scalar letter :: rest =>
      if letter = 'u' then
        (readCodeUnit rest).widen (length_le_cons _ rest)
      else match shortEscape? letter with
        | some character => .ok ⟨character, rest, length_lt_cons _ rest⟩
        | none => .error (.upon .badEscape (.scalar letter :: rest))

def isControl (character : Char) : Bool :=
  decide (character.toNat < 0x20)

/-- The first malformed run of bytes in a string, and by how many bytes the escapes behind it
are longer than the characters that they stand for. -/
structure Malformed where
  place : Source
  excess : Nat

def Malformed.passing (malformed : Malformed) (decoded : Char) (source left : Source) :
    Malformed :=
  { malformed with
    excess := malformed.excess + (1 + (source.length - left.length) - decoded.utf8Size) }

/-- The complaint is placed by the decoded text: as many bytes before the end of the string as
the text has from the malformed run on. -/
def Malformed.fault (malformed : Malformed) : Fault :=
  ⟨.notUnicode, malformed.place, .bytes (malformed.excess + 1), true⟩

/-- The characters up to the closing quote, after those collected so far, last first. Once the
quote is reached, the first malformed run of bytes is complained of. -/
def readCharacters {start : Source} (collected : List Char) (malformed : Option Malformed)
    (source : Source) (within : source.length ≤ start.length) : Reading String start :=
  match source with
  | [] => .error (.behind .textEnds [])
  | .broken first more :: rest =>
      readCharacters collected (malformed <|> some ⟨.broken first more :: rest, 0⟩) rest
        (length_le_of_cons_le within)
  | .scalar character :: rest =>
      if character = '"' then
        match malformed with
        -- Not before the end: other faults of the string come first.
        | none => .ok ⟨String.ofList collected.reverse, rest, within⟩
        | some found => .error found.fault
      else if character = '\\' then
        match readEscape rest with
        | .error fault => .error fault
        | .ok ⟨decoded, left, shorter⟩ =>
            readCharacters (decoded :: collected)
              (malformed.map (fun found => found.passing decoded rest left)) left
              (length_le_of_cons_le_of_lt within shorter)
      else if isControl character then
        .error (.upon .controlCharacter (.scalar character :: rest))
      else readCharacters (character :: collected) malformed rest (length_le_of_cons_le within)
termination_by source.length

def readText : Reader String := fun source =>
  readCharacters [] none source (length_le_self source)

def skipEscape : Reader Unit
  | [] => .error (.behind .textEnds [])
  | .broken first more :: rest => .error (.upon .badEscape (.broken first more :: rest))
  | .scalar letter :: rest =>
      if letter = 'u' then
        match readHex rest with
        | .error fault => .error fault
        | .ok ⟨_, left, shorter⟩ => .ok ⟨(), left, length_lt_cons_of_lt shorter⟩
      else if (shortEscape? letter).isSome then .ok ⟨(), rest, length_lt_cons _ rest⟩
      else .error (.upon .badEscape (.scalar letter :: rest))

def skipCharacters {start : Source} (source : Source)
    (within : source.length ≤ start.length) : Reading Unit start :=
  match source with
  | [] => .error (.behind .textEnds [])
  | .broken _ _ :: rest => skipCharacters rest (length_le_of_cons_le within)
  | .scalar character :: rest =>
      if character = '"' then .ok ⟨(), rest, within⟩
      else if character = '\\' then
        match skipEscape rest with
        | .error fault => .error fault
        | .ok ⟨_, left, shorter⟩ => skipCharacters left (length_le_of_cons_le_of_lt within shorter)
      else if isControl character then
        .error (.before .controlCharacter (.scalar character :: rest))
      else skipCharacters rest (length_le_of_cons_le within)
termination_by source.length

def skipText : Reader Unit := fun source =>
  skipCharacters source (length_le_self source)

end CircuitDiagram.Json
