import CircuitDiagram.Document
import CircuitDiagram.Json.Skip

/-!
Documents from JSON text. A circuit, a node entry and a wire are objects, of which members with
other names are passed over, or lists of their members in order. In the tables of circuits,
nodes and groups a name that comes again keeps its place and takes the later value.
-/

namespace CircuitDiagram

open Json

variable {α β : Type}

def readEntry (value : Reader α) (table : Table α) (name : String) : Reader (Table α) :=
  fun source =>
    match readColon source with
    | .error fault => .error fault
    | .ok ⟨_, rest, shorter⟩ =>
        match value rest with
        | .error fault => .error fault
        | .ok ⟨read, left, shorterValue⟩ =>
            .ok ⟨table.set name read, left, length_lt_trans shorter shorterValue⟩

def readTable (value : Reader α) : Reader (Table α) :=
  readShape .object fun symbol =>
    if isCharacter '{' symbol then some (readObject (readEntry value) .empty .ok) else none

/-- A member of an object with fixed fields: it has to be the first of its name. -/
def readField (field : Field) (value : Reader α) (earlier : Option α) (store : α → β) :
    Reader β := fun source =>
  if earlier.isSome then .error (.openAt (.repeatedField field) source)
  else
    match readColon source with
    | .error fault => .error fault
    | .ok ⟨_, rest, shorter⟩ =>
        match value rest with
        | .error fault => .error fault
        | .ok ⟨read, left, shorterValue⟩ =>
            .ok ⟨store read, left, length_lt_trans shorter shorterValue⟩

def readOther (state : β) : Reader β := fun source =>
  match readColon source with
  | .error fault => .error fault
  | .ok ⟨_, rest, shorter⟩ =>
      match skipValue rest with
      | .error fault => .error fault
      | .ok ⟨_, left, shorterValue⟩ =>
          .ok ⟨state, left, length_lt_trans shorter shorterValue⟩

/-- An object with two fields, of which the first is missed first. -/
def readTwoFields (first second : Field) (readFirstField : Reader α)
    (readSecondField : Reader β) : Reader (α × β) :=
  readObject
    (fun (state : Option α × Option β) key =>
      if key = first.key then
        readField first readFirstField state.1 fun value => (some value, state.2)
      else if key = second.key then
        readField second readSecondField state.2 fun value => (state.1, some value)
      else readOther state)
    (none, none)
    fun state =>
      match state with
      | (some left, some right) => .ok (left, right)
      | (none, _) => .error (.missingField first)
      | (some _, none) => .error (.missingField second)

def readOneField (field : Field) (value : Reader α) : Reader α :=
  readObject
    (fun (state : Option α) key =>
      if key = field.key then readField field value state some else readOther state)
    none
    fun state =>
      match state with
      | some read => .ok read
      | none => .error (.missingField field)

def readRecord (wanted : Wanted) (first second : Field) (readFirstField : Reader α)
    (readSecondField : Reader β) : Reader (α × β) :=
  readShape wanted fun symbol =>
    if isCharacter '{' symbol then
      some (readTwoFields first second readFirstField readSecondField)
    else if isCharacter '[' symbol then some (readPair wanted readFirstField readSecondField)
    else none

/-- What a variant's name says: a kind, or one that still needs its gate's name. -/
def variant? (name : String) : Option (Option Kind) :=
  if name = Side.input.name then some (some (.boundary .input))
  else if name = Side.output.name then some (some (.boundary .output))
  else if name = "Internal" then some none
  else none

def readBareKind : Reader Kind := fun source =>
  match readText source with
  | .error fault => .error fault
  | .ok ⟨name, rest, shorter⟩ =>
      match variant? name with
      | none => .error (.behind (.unknownVariant name) rest)
      -- A gate needs a name, which only the object form can hold.
      | some none => .error (.openAt (.wrongType .bareVariant .variantWithContent) rest)
      | some (some kind) => .ok ⟨kind, rest, shorter⟩

/-- The only value that a boundary kind may be given. -/
def readNull : Reader Unit :=
  readShape .null fun symbol =>
    if isCharacter 'n' symbol then
      some fun rest =>
        match read : readLiteral ['u', 'l', 'l'] rest with
        | .error fault => .error fault
        | .ok left => .ok ⟨(), left, length_lt_of_readLiteral read⟩
    else none

def readContent : Option Kind → Reader Kind
  | some kind => fun source =>
      match readNull source with
      | .error fault => .error fault
      | .ok taken => .ok (taken.map fun _ => kind)
  | none => fun source =>
      match readString .text source with
      | .error fault => .error fault
      | .ok taken => .ok (taken.map .gate)

def readTaggedKind : Reader Kind := fun source =>
  match readOnlyKey source with
  | .error fault => .error fault
  | .ok ⟨name, behindName, shorterName⟩ =>
      match variant? name with
      | none => .error (.behind (.unknownVariant name) behindName)
      | some content =>
          match readColon behindName with
          | .error fault => .error fault
          | .ok ⟨_, behindColon, shorterColon⟩ =>
              match readContent content behindColon with
              | .error fault => .error fault
              | .ok ⟨kind, rest, shorterKind⟩ =>
                  onFirst rest (.error (.behind .objectEnds [])) fun symbol left found =>
                    if isCharacter '}' symbol then
                      .ok ⟨kind, left, length_lt_trans_both shorterName
                        (length_lt_trans shorterColon shorterKind)
                        (length_lt_of_skipBlanks found)⟩
                    else .error (.before .noValue (symbol :: left))

def readKind : Reader Kind := fun source =>
  onFirst source (.error (.upon .valueEnds [])) fun symbol rest found =>
    if isCharacter '{' symbol then
      (readTaggedKind rest).widen (length_le_of_skipBlanks found)
    else if isCharacter '"' symbol then
      (readBareKind rest).widen (length_le_of_skipBlanks found)
    else .error (.upon .noValue (symbol :: rest))

def readNode : Reader Kind :=
  readShape .node fun symbol =>
    if isCharacter '{' symbol then some (readOneField .type readKind)
    else if isCharacter '[' symbol then some (readSingle .node readKind)
    else none

def readSink : Reader (String × String) :=
  readShape .pair fun symbol =>
    if isCharacter '[' symbol then
      some (readPair .pair (readString .text) (readString .text))
    else none

def readWire : Reader Wire := fun source =>
  match readRecord .wire .source .sink (readString .text) readSink source with
  | .error fault => .error fault
  | .ok taken => .ok (taken.map fun parts => ⟨parts.1, parts.2.1, parts.2.2⟩)

def readGroup : Reader (List Wire) :=
  readShape .list fun symbol =>
    if isCharacter '[' symbol then some (readList readWire) else none

def readCircuit : Reader Circuit := fun source =>
  match readRecord .circuit .nodes .edges (readTable readNode) (readTable readGroup) source with
  | .error fault => .error fault
  | .ok taken => .ok (taken.map fun parts => ⟨parts.1, parts.2⟩)

def readDocument : Reader Document := fun source =>
  match readTable readCircuit source with
  | .error fault => .error fault
  | .ok taken => .ok (taken.map .mk)

def readAll (value : Reader α) (source : Source) : Except Fault α :=
  match value source with
  | .error fault => .error fault
  | .ok taken =>
      match skipBlanks taken.rest with
      | [] => .ok taken.value
      | symbol :: rest => .error (.upon .trailingText (symbol :: rest))

def decode (value : Reader α) (delivery : Delivery) (input : Source) : Except Complaint α :=
  match readAll value input with
  | .ok read => .ok read
  | .error fault => .error (fault.report delivery input)

namespace Document

def parse (text : String) : Except Complaint Document :=
  decode readDocument .whole (Symbol.ofString text)

def parseBytes (bytes : List UInt8) : Except Complaint Document :=
  decode readDocument .stream (Symbol.segment bytes)

end Document

end CircuitDiagram
