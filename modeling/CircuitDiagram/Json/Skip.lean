import CircuitDiagram.Json.Container

/-!
Passing a value that nobody asked for. Its form is checked, at any depth; its numbers are not
evaluated and its surrogates need not pair. The brackets still open are kept in a list, the
innermost first.
-/

namespace CircuitDiagram.Json

inductive Bracket where
  | list
  | object
  deriving DecidableEq, Repr

def Bracket.closes (bracket : Bracket) (symbol : Symbol) : Bool :=
  match bracket with
  | .list => isCharacter ']' symbol
  | .object => isCharacter '}' symbol

def Bracket.ends : Bracket → Cause
  | .list => .listEnds
  | .object => .objectEnds

def Bracket.noSeparator : Bracket → Cause
  | .list => .noListSeparator
  | .object => .noObjectSeparator

def bracket? (symbol : Symbol) : Option Bracket :=
  if isCharacter '[' symbol then some .list
  else if isCharacter '{' symbol then some .object
  else none

def skipLiteral (literal : String) : Reader Unit
  | [] => .error (.upon .valueEnds [])
  | _ :: rest =>
      match read : readLiteral literal.toList rest with
      | .error fault => .error fault
      | .ok left => .ok ⟨(), left, length_lt_cons_of_readLiteral read⟩

def skipLeaf : Reader Unit
  | [] => .error (.upon .valueEnds [])
  | symbol :: rest =>
      if isCharacter 'n' symbol then skipLiteral "ull" (symbol :: rest)
      else if isCharacter 't' symbol then skipLiteral "rue" (symbol :: rest)
      else if isCharacter 'f' symbol then skipLiteral "alse" (symbol :: rest)
      else if isCharacter '-' symbol || isDigit symbol then skipNumber (symbol :: rest)
      else if isCharacter '"' symbol then (skipText rest).widen (length_le_cons symbol rest)
      else .error (.upon .noValue (symbol :: rest))

def skipKey : Reader Unit := fun source =>
  onFirst source (.error (.upon .objectEnds [])) fun symbol rest found =>
    if isCharacter '"' symbol then
      match skipText rest with
      | .error fault => .error fault
      | .ok ⟨_, left, shorter⟩ =>
          (readColon left).widen
            (length_le_of_lt_of_le shorter (length_le_of_skipBlanks found))
    else .error (.upon .keyNotText (symbol :: rest))

mutual

/-- Passes a value inside the open brackets, and what follows until they are closed. -/
def skipInside {start : Source} (opened : List Bracket) (source : Source)
    (within : source.length ≤ start.length) : Reading Unit start :=
  onFirst source (.error (.upon .valueEnds [])) fun symbol rest found =>
    have shorter := length_lt_of_skipBlanks found
    match bracket? symbol with
    | some bracket =>
        skipOpened bracket opened rest (length_lt_of_lt_of_le shorter within)
    | none =>
        match skipLeaf (symbol :: rest) with
        | .error fault => .error fault
        | .ok ⟨_, left, leaf⟩ =>
            have passed := length_lt_of_skipBlanks_of_lt found leaf
            skipBehind opened left (length_lt_of_lt_of_le passed within)
termination_by (source.length, 0)

def skipOpened {start : Source} (bracket : Bracket) (opened : List Bracket) (source : Source)
    (within : source.length < start.length) : Reading Unit start :=
  onFirst source (.error (.upon bracket.ends [])) fun symbol rest found =>
    have shorter := length_lt_of_skipBlanks found
    if bracket.closes symbol then skipBehind opened rest (length_lt_trans within shorter)
    -- What was found is still unread: the first element or key begins with it.
    else skipNext bracket opened source within
termination_by (source.length, 2)

def skipNext {start : Source} (bracket : Bracket) (opened : List Bracket) (source : Source)
    (within : source.length < start.length) : Reading Unit start :=
  match bracket with
  | .list => skipInside (.list :: opened) source (length_le_of_lt within)
  | .object =>
      match skipKey source with
      | .error fault => .error fault
      | .ok ⟨_, left, shorter⟩ =>
          skipInside (.object :: opened) left
            (length_le_of_lt_of_le shorter (length_le_of_lt within))
termination_by (source.length, 1)

def skipBehind {start : Source} (opened : List Bracket) (source : Source)
    (within : source.length < start.length) : Reading Unit start :=
  match opened with
  | [] => .ok ⟨(), source, within⟩
  | bracket :: outer =>
      onFirst source (.error (.upon bracket.ends [])) fun symbol rest found =>
        have shorter := length_lt_of_skipBlanks found
        if bracket.closes symbol then skipBehind outer rest (length_lt_trans within shorter)
        else if isCharacter ',' symbol then
          skipNext bracket outer rest (length_lt_trans within shorter)
        else .error (.upon bracket.noSeparator (symbol :: rest))
termination_by (source.length, 0)

end

def skipValue : Reader Unit := fun source =>
  skipInside [] source (length_le_self source)

end CircuitDiagram.Json
