import CircuitDiagram.Json.Numeral
import CircuitDiagram.Json.Text

/-!
Lists and objects, whatever they hold. Elements and members are read one after the other by
readers that are given; commas and closing brackets are seen to here. A fault that has no place
yet is placed where the list or object around it is left.
-/

namespace CircuitDiagram.Json

variable {α β σ : Type}

def mismatch (wanted : Wanted) : Source → Fault
  | [] => .upon .valueEnds []
  | symbol :: rest =>
      let literal (text : String) (found : Found) : Fault :=
        match readLiteral text.toList rest with
        | .error fault => fault
        | .ok left => .behind (.wrongType found wanted) left
      if isCharacter 'n' symbol then literal "ull" .null
      else if isCharacter 't' symbol then literal "rue" (.boolean true)
      else if isCharacter 'f' symbol then literal "alse" (.boolean false)
      else if isCharacter '-' symbol || isDigit symbol then
        match readFoundNumber (symbol :: rest) with
        | .error fault => fault
        | .ok taken => .before (.wrongType taken.value wanted) taken.rest
      else if isCharacter '"' symbol then
        match readText rest with
        | .error fault => fault
        | .ok taken => .behind (.wrongType (.text taken.value) wanted) taken.rest
      else if isCharacter '[' symbol then .before (.wrongType .list wanted) (symbol :: rest)
      else if isCharacter '{' symbol then .before (.wrongType .object wanted) (symbol :: rest)
      else .upon .noValue (symbol :: rest)

def readColon : Reader Unit := fun source =>
  onFirst source (.error (.upon .objectEnds [])) fun symbol rest found =>
    if isCharacter ':' symbol then .ok ⟨(), rest, length_lt_of_skipBlanks found⟩
    else .error (.upon .noColon (symbol :: rest))

/-- Where an open fault is placed: behind the closing bracket if the input goes on with it, and
otherwise before what is there instead. -/
def Fault.settle (close : Char) (fault : Fault) : Fault :=
  if fault.placed then fault
  else match skipBlanks fault.unread with
    | [] => .behind fault.cause []
    | symbol :: rest =>
        if isCharacter close symbol then .behind fault.cause rest
        -- Only a list looks past a comma to see whether more is there.
        else if close == ']' && isCharacter ',' symbol then
          .before fault.cause (skipBlanks rest)
        else .before fault.cause (symbol :: rest)

def Reading.settle {source : Source} (close : Char) (reading : Reading α source) :
    Reading α source :=
  match reading with
  | .ok taken => .ok taken
  | .error fault => .error (fault.settle close)

inductive Turn where
  | ended
  | next
  deriving DecidableEq, Repr

def readKeyQuote : Reader Turn := fun source =>
  onFirst source (.error (.upon .valueEnds [])) fun symbol rest found =>
    if isCharacter '"' symbol then .ok ⟨.next, rest, length_lt_of_skipBlanks found⟩
    else if isCharacter '}' symbol then .error (.upon .trailingComma (symbol :: rest))
    else .error (.upon .keyNotText (symbol :: rest))

def readTurn (first : Bool) : Reader Turn := fun source =>
  onFirst source (.error (.upon .objectEnds [])) fun symbol rest found =>
    if isCharacter '}' symbol then .ok ⟨.ended, rest, length_lt_of_skipBlanks found⟩
    else if first then
      if isCharacter '"' symbol then .ok ⟨.next, rest, length_lt_of_skipBlanks found⟩
      else .error (.upon .keyNotText (symbol :: rest))
    else if isCharacter ',' symbol then
      (readKeyQuote rest).widen (length_le_of_skipBlanks found)
    else .error (.upon .noObjectSeparator (symbol :: rest))

def readOnlyKey : Reader String := fun source =>
  onFirst source (.error (.upon .objectEnds [])) fun symbol rest found =>
    if isCharacter '"' symbol then
      (readText rest).widen (length_le_of_skipBlanks found)
    else if isCharacter '}' symbol then .error (.upon .noValue (symbol :: rest))
    else .error (.upon .keyNotText (symbol :: rest))

/-- Reads the members of an object from behind its opening bracket. `member` goes on behind the
key; what it makes of the member is added to `state`. -/
def readMembers {start : Source} (member : σ → String → Reader σ) (state : σ) (first : Bool)
    (source : Source) (within : source.length ≤ start.length) : Reading σ start :=
  match readTurn first source with
  | .error fault => .error fault
  | .ok ⟨.ended, rest, shorter⟩ => .ok ⟨state, rest, length_lt_of_lt_of_le shorter within⟩
  | .ok ⟨.next, rest, shorter⟩ =>
      match readText rest with
      | .error fault => .error fault
      | .ok ⟨key, behindKey, shorterKey⟩ =>
          match member state key behindKey with
          | .error fault => .error fault
          | .ok ⟨extended, left, shorterValue⟩ =>
              readMembers member extended false left
                (length_le_of_lt_of_le (length_lt_trans_both shorter shorterKey shorterValue)
                  within)
termination_by source.length

def readObject (member : σ → String → Reader σ) (state : σ) (finish : σ → Except Cause α) :
    Reader α := fun source =>
  match (readMembers member state true source (length_le_self source)).settle '}' with
  | .error fault => .error fault
  | .ok ⟨final, rest, shorter⟩ =>
      match finish final with
      | .error cause => .error (.behind cause rest)
      | .ok value => .ok ⟨value, rest, shorter⟩

/-- The rest of a list from behind an element, where another element is asked for: whether the
list is over. -/
def readComma : Reader Turn := fun source =>
  onFirst source (.error (.upon .listEnds [])) fun symbol rest found =>
    if isCharacter ']' symbol then .ok ⟨.ended, rest, length_lt_of_skipBlanks found⟩
    else if isCharacter ',' symbol then
      match skipBlanks rest with
      | [] => .error (.upon .valueEnds [])
      | next :: left =>
          -- The element behind the comma is looked at here and read by its own reader.
          if isCharacter ']' next then .error (.upon .trailingComma (next :: left))
          else .ok ⟨.next, rest, length_lt_of_skipBlanks found⟩
    else .error (.upon .noListSeparator (symbol :: rest))

def readElements {start : Source} (element : Reader α) (collected : List α) (source : Source)
    (within : source.length ≤ start.length) : Reading (List α) start :=
  match element source with
  | .error fault => .error fault
  | .ok ⟨value, rest, shorter⟩ =>
      match readComma rest with
      | .error fault => .error fault
      | .ok ⟨.ended, left, shorterLeft⟩ =>
          .ok ⟨(value :: collected).reverse, left,
            length_lt_of_lt_of_le (length_lt_trans shorter shorterLeft) within⟩
      | .ok ⟨.next, left, shorterLeft⟩ =>
          readElements element (value :: collected) left
            (length_le_of_lt_of_le (length_lt_trans shorter shorterLeft) within)
termination_by source.length

def readList (element : Reader α) : Reader (List α) := fun source =>
  onFirst source (.error (.upon .listEnds [])) fun symbol rest found =>
    if isCharacter ']' symbol then .ok ⟨[], rest, length_lt_of_skipBlanks found⟩
    else readElements element [] source (length_le_self source)

def readListEnd : Reader Unit := fun source =>
  onFirst source (.error (.upon .listEnds [])) fun symbol rest found =>
    if isCharacter ']' symbol then .ok ⟨(), rest, length_lt_of_skipBlanks found⟩
    else if isCharacter ',' symbol then
      match skipBlanks rest with
      | [] => .error (.upon .trailingText [])
      | next :: left =>
          .error (.upon (if isCharacter ']' next then .trailingComma else .trailingText)
            (next :: left))
    else .error (.upon .trailingText (symbol :: rest))

def readFirst (wanted : Wanted) (element : Reader α) : Reader α := fun source =>
  match skipBlanks source with
  | [] => .error (.upon .listEnds [])
  | symbol :: rest =>
      if isCharacter ']' symbol then .error (.behind (.wrongLength 0 wanted) rest)
      else element source

def readNext (wanted : Wanted) (count : Nat) (element : Reader α) : Reader α := fun source =>
  match readComma source with
  | .error fault => .error fault
  | .ok ⟨.ended, rest, _⟩ => .error (.behind (.wrongLength count wanted) rest)
  | .ok ⟨.next, rest, shorter⟩ => (element rest).widen (length_le_of_lt shorter)

def readSingle (wanted : Wanted) (element : Reader α) : Reader α := fun source =>
  match (readFirst wanted element source).settle ']' with
  | .error fault => .error fault
  | .ok ⟨value, rest, shorter⟩ =>
      match readListEnd rest with
      | .error fault => .error fault
      | .ok ⟨_, left, shorterLeft⟩ => .ok ⟨value, left, length_lt_trans shorter shorterLeft⟩

def readPair (wanted : Wanted) (first : Reader α) (second : Reader β) : Reader (α × β) :=
  fun source =>
    match readFirst wanted first source with
    | .error fault => .error (fault.settle ']')
    | .ok ⟨left, rest, shorter⟩ =>
        match readNext wanted 1 second rest with
        | .error fault => .error (fault.settle ']')
        | .ok ⟨right, behindRight, shorterRight⟩ =>
            match readListEnd behindRight with
            | .error fault => .error fault
            | .ok ⟨_, final, shorterFinal⟩ =>
                .ok ⟨(left, right), final,
                  length_lt_trans_both shorter shorterRight shorterFinal⟩

/-- Chooses by the first symbol behind blanks: readers for what goes on behind it, and what is
wanted if there is none for it. -/
def readShape (wanted : Wanted) (shape : Symbol → Option (Reader α)) : Reader α := fun source =>
  onFirst source (.error (.upon .valueEnds [])) fun symbol rest found =>
    match shape symbol with
    | some reader => (reader rest).widen (length_le_of_skipBlanks found)
    | none => .error (mismatch wanted (symbol :: rest))

def readString (wanted : Wanted) : Reader String :=
  readShape wanted fun symbol => if isCharacter '"' symbol then some readText else none

end CircuitDiagram.Json
