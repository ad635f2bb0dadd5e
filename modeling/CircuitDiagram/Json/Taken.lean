import CircuitDiagram.Json.Fault

/-!
What a reader gives back: a value and the unread input, which is shorter than what it was
given. Loops over readers end because of that. A reader says with a fault that the value it
was to read is not there.
-/

namespace CircuitDiagram.Json

section Lengths

variable {symbol : Symbol} {start source rest left final : Source}

theorem length_le_self (source : Source) : source.length ≤ source.length :=
  Nat.le_refl _

theorem length_le_of_lt (shorter : rest.length < source.length) : rest.length ≤ source.length :=
  Nat.le_of_lt shorter

theorem length_lt_trans (first : rest.length < source.length)
    (second : left.length < rest.length) : left.length < source.length :=
  Nat.lt_trans second first

theorem length_lt_trans_both (first : rest.length < source.length)
    (second : left.length < rest.length) (third : final.length < left.length) :
    final.length < source.length :=
  Nat.lt_trans third (Nat.lt_trans second first)

theorem length_lt_of_lt_of_le (shorter : rest.length < source.length)
    (within : source.length ≤ start.length) : rest.length < start.length :=
  Nat.lt_of_lt_of_le shorter within

theorem length_le_of_lt_of_le (shorter : rest.length < source.length)
    (within : source.length ≤ start.length) : rest.length ≤ start.length :=
  Nat.le_of_lt (Nat.lt_of_lt_of_le shorter within)

theorem length_le_cons (symbol : Symbol) (rest : Source) :
    rest.length ≤ (symbol :: rest).length :=
  Nat.le_succ _

theorem length_lt_cons (symbol : Symbol) (rest : Source) :
    rest.length < (symbol :: rest).length :=
  Nat.lt_succ_self _

theorem length_lt_cons_of_lt (shorter : rest.length < source.length) :
    rest.length < (symbol :: source).length :=
  Nat.lt_succ_of_lt shorter

theorem length_lt_of_cons_lt (shorter : (symbol :: rest).length < start.length)
    (within : left.length < rest.length) : left.length < start.length :=
  Nat.lt_trans (Nat.lt_succ_of_lt within) shorter

theorem length_le_of_cons_le (within : (symbol :: rest).length ≤ start.length) :
    rest.length ≤ start.length :=
  Nat.le_of_succ_le within

theorem length_le_of_cons_le_of_lt (within : (symbol :: rest).length ≤ start.length)
    (shorter : left.length < rest.length) : left.length ≤ start.length :=
  Nat.le_trans (Nat.le_of_lt shorter) (Nat.le_of_succ_le within)

end Lengths

structure Taken (α : Type) (source : Source) where
  value : α
  rest : Source
  shorter : rest.length < source.length

abbrev Reading (α : Type) (source : Source) := Except Fault (Taken α source)

abbrev Reader (α : Type) := (source : Source) → Reading α source

namespace Taken

variable {α β : Type} {source wider : Source}

def widen (taken : Taken α source) (wide : source.length ≤ wider.length) : Taken α wider :=
  ⟨taken.value, taken.rest, Nat.lt_of_lt_of_le taken.shorter wide⟩

def map (change : α → β) (taken : Taken α source) : Taken β source :=
  ⟨change taken.value, taken.rest, taken.shorter⟩

end Taken

def Reading.widen {α : Type} {source wider : Source} (reading : Reading α source)
    (wide : source.length ≤ wider.length) : Reading α wider :=
  match reading with
  | .ok taken => .ok (taken.widen wide)
  | .error fault => .error fault

def isBlank : Symbol → Bool
  | .scalar character =>
      character == ' ' || character == '\n' || character == '\t' || character == '\r'
  | .broken _ _ => false

def skipBlanks (source : Source) : Source :=
  source.dropWhile isBlank

theorem length_skipBlanks_le (source : Source) :
    (skipBlanks source).length ≤ source.length :=
  (List.dropWhile_sublist isBlank).length_le

theorem length_lt_of_skipBlanks {source rest : Source} {symbol : Symbol}
    (first : skipBlanks source = symbol :: rest) : rest.length < source.length := by
  have bound := length_skipBlanks_le source
  rw [first] at bound
  exact bound

theorem length_le_of_skipBlanks {source rest : Source} {symbol : Symbol}
    (first : skipBlanks source = symbol :: rest) : rest.length ≤ source.length :=
  Nat.le_of_lt (length_lt_of_skipBlanks first)

theorem length_lt_of_skipBlanks_of_lt {source rest left : Source} {symbol : Symbol}
    (first : skipBlanks source = symbol :: rest)
    (shorter : left.length < (symbol :: rest).length) : left.length < source.length := by
  have bound := length_skipBlanks_le source
  rw [first] at bound
  exact Nat.lt_of_lt_of_le shorter bound

/-- Goes on with the first symbol that is left after blanks, and with what follows it. -/
def onFirst {β : Type} (source : Source) (atEnd : β)
    (behind : (symbol : Symbol) → (rest : Source) → skipBlanks source = symbol :: rest → β) : β :=
  match found : skipBlanks source with
  | [] => atEnd
  | symbol :: rest => behind symbol rest found

theorem onFirst_eq {β : Type} {source rest : Source} {symbol : Symbol} {atEnd : β}
    {behind : (symbol : Symbol) → (rest : Source) → skipBlanks source = symbol :: rest → β}
    (found : skipBlanks source = symbol :: rest) :
    onFirst source atEnd behind = behind symbol rest found := by
  unfold onFirst
  split
  · rename_i none
    rw [found] at none
    contradiction
  · rename_i same
    cases found.symm.trans same
    rfl

theorem eq_of_onFirst {β : Type} {source : Source} {atEnd result : β}
    {behind : (symbol : Symbol) → (rest : Source) → skipBlanks source = symbol :: rest → β}
    (same : onFirst source atEnd behind = result) (other : atEnd ≠ result) :
    ∃ symbol rest found, behind symbol rest found = result := by
  unfold onFirst at same
  split at same
  · exact absurd same other
  · exact ⟨_, _, _, same⟩

def isCharacter (character : Char) : Symbol → Bool
  | .scalar other => other == character
  | .broken _ _ => false

/-- Reads the characters of `literal`, which must follow at once. A wrong byte is passed
before it is complained of. -/
def readLiteral : (literal : List Char) → (source : Source) → Except Fault Source
  | [], source => .ok source
  | _ :: _, [] => .error (.behind .valueEnds [])
  | character :: literal, symbol :: rest =>
      if isCharacter character symbol then readLiteral literal rest
      else .error (.upon .noLiteral (symbol :: rest))

theorem length_readLiteral {literal : List Char} {source rest : Source}
    (read : readLiteral literal source = .ok rest) :
    rest.length + literal.length = source.length := by
  induction literal generalizing source with
  | nil =>
      simp only [readLiteral, Except.ok.injEq] at read
      simp [read]
  | cons character literal ih =>
      cases source with
      | nil => simp [readLiteral] at read
      | cons symbol source =>
          simp only [readLiteral] at read
          split at read
          · have shorter := ih read
            simp only [List.length_cons]
            omega
          · simp at read

theorem length_le_of_readLiteral {literal : List Char} {source rest : Source}
    (read : readLiteral literal source = .ok rest) : rest.length ≤ source.length := by
  have parts := length_readLiteral read
  omega

theorem length_lt_of_readLiteral {character : Char} {literal : List Char} {source rest : Source}
    (read : readLiteral (character :: literal) source = .ok rest) :
    rest.length < source.length := by
  have parts := length_readLiteral read
  simp only [List.length_cons] at parts
  omega

theorem length_lt_cons_of_readLiteral {literal : List Char} {symbol : Symbol}
    {source rest : Source} (read : readLiteral literal source = .ok rest) :
    rest.length < (symbol :: source).length :=
  Nat.lt_succ_of_le (length_le_of_readLiteral read)

end CircuitDiagram.Json
