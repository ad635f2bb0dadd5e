import CircuitDiagram.Json.Container
import CircuitDiagram.Proofs.Json.Grammar

/-!
What it is for a reader to be exact for a relation of the grammar: on characters it succeeds with
just the values that the relation names, and leaves just the text behind them. A reader that may
end with a number has to succeed only before a text that the number could not go on with.
-/

namespace CircuitDiagram.Json

variable {α β : Type}

def ofChars (chars : List Char) : Source :=
  chars.map Symbol.scalar

@[simp]
theorem ofChars_nil : ofChars [] = [] := rfl

@[simp]
theorem ofChars_cons (character : Char) (chars : List Char) :
    ofChars (character :: chars) = .scalar character :: ofChars chars := rfl

@[simp]
theorem length_ofChars (chars : List Char) : (ofChars chars).length = chars.length :=
  List.length_map _

/-- A text that does not go on with one of these characters. -/
def Stops (characters : Char → Bool) : List Char → Prop
  | [] => True
  | character :: _ => characters character = false

/-- The characters that a number could go on with. -/
def extendsNumber (character : Char) : Bool :=
  character.isDigit || character == '.' || character == 'e' || character == 'E'

abbrev Delimited : List Char → Prop :=
  Stops extendsNumber

/-- A relation between values and the texts around their spellings. -/
abbrev Spelling (α : Type) := α → List Char → List Char → Prop

/-- The reader is exact where the text behind the value is of the given form. -/
structure ExactBefore (follows : List Char → Prop) (reader : Reader α) (spelling : Spelling α) :
    Prop where
  sound {chars : List Char} {taken : Taken α (ofChars chars)}
    (read : reader (ofChars chars) = .ok taken) :
    ∃ left, taken.rest = ofChars left ∧ spelling taken.value chars left
  complete {chars left : List Char} {value : α} (spelled : spelling value chars left)
    (follow : follows left) :
    ∃ shorter, reader (ofChars chars) = .ok ⟨value, ofChars left, shorter⟩

abbrev Exact (reader : Reader α) (spelling : Spelling α) : Prop :=
  ExactBefore (fun _ => True) reader spelling

theorem Exact.before {reader : Reader α} {spelling : Spelling α} (exact : Exact reader spelling)
    (follows : List Char → Prop) : ExactBefore follows reader spelling where
  sound := exact.sound
  complete spelled _ := exact.complete spelled trivial

theorem ExactBefore.of_iff {follows : List Char → Prop} {reader : Reader α}
    {spelling other : Spelling α} (exact : ExactBefore follows reader spelling)
    (same : ∀ value chars rest, spelling value chars rest ↔ other value chars rest) :
    ExactBefore follows reader other where
  sound read := by
    obtain ⟨left, rest, spelled⟩ := exact.sound read
    exact ⟨left, rest, (same _ _ _).mp spelled⟩
  complete spelled follow := exact.complete ((same _ _ _).mpr spelled) follow

section Places

variable {follows : List Char → Prop} {reader : Reader α} {spelling : Spelling α}
  {source : Source} {chars left : List Char}

/-- A reader at a source that is only known to be equal to some characters. -/
theorem ExactBefore.sound_at (exact : ExactBefore follows reader spelling)
    (same : source = ofChars chars) {taken : Taken α source} (read : reader source = .ok taken) :
    ∃ left, taken.rest = ofChars left ∧ spelling taken.value chars left := by
  subst same
  exact exact.sound read

theorem ExactBefore.complete_at (exact : ExactBefore follows reader spelling)
    (same : source = ofChars chars) {value : α} (spelled : spelling value chars left)
    (follow : follows left) :
    ∃ shorter, reader source = .ok ⟨value, ofChars left, shorter⟩ := by
  subst same
  exact exact.complete spelled follow

end Places

theorem widen_eq_ok {source wider : Source} {reading : Reading α source}
    {wide : source.length ≤ wider.length} {taken : Taken α wider} :
    reading.widen wide = .ok taken ↔
      ∃ shorter, reading = .ok ⟨taken.value, taken.rest, shorter⟩ := by
  cases reading with
  | error fault => simp [Reading.widen]
  | ok found =>
      obtain ⟨value, rest, shorter⟩ := found
      obtain ⟨wanted, left, _⟩ := taken
      constructor
      · intro same
        cases same
        exact ⟨shorter, rfl⟩
      · rintro ⟨_, same⟩
        cases same
        rfl

section Blanks

theorem isBlank_scalar (character : Char) :
    isBlank (.scalar character) = isWhite character := by
  simp only [isBlank, isWhite, List.mem_cons, List.not_mem_nil, or_false]
  grind

def unblanked (chars : List Char) : List Char :=
  chars.dropWhile isWhite

theorem skipBlanks_ofChars (chars : List Char) :
    skipBlanks (ofChars chars) = ofChars (unblanked chars) := by
  induction chars with
  | nil => rfl
  | cons character chars ih =>
      by_cases white : isWhite character = true
      · simpa [skipBlanks, unblanked, isBlank_scalar, white] using ih
      · simp [skipBlanks, unblanked, isBlank_scalar, white]

theorem blanks_unblanked (chars : List Char) : Blanks chars (unblanked chars) := by
  induction chars with
  | nil => exact .none []
  | cons character chars ih =>
      by_cases white : isWhite character = true
      · have step : unblanked (character :: chars) = unblanked chars := by
          simp [unblanked, white]
        rw [step]
        exact .more white ih
      · have stop : unblanked (character :: chars) = character :: chars := by
          simp [unblanked, white]
        rw [stop]
        exact .none _

-- Blanks may end before the white space does; behind all of it the texts are the same.
theorem unblanked_of_blanks {chars rest : List Char} (blanks : Blanks chars rest) :
    unblanked chars = unblanked rest := by
  induction blanks with
  | none => rfl
  | more white _ ih => simpa [unblanked, white] using ih

theorem unblanked_of_black {character : Char} (black : isWhite character = false)
    (rest : List Char) : unblanked (character :: rest) = character :: rest := by
  simp [unblanked, black]

theorem length_le_of_blanks {chars rest : List Char} (blanks : Blanks chars rest) :
    rest.length ≤ chars.length := by
  induction blanks with
  | none => exact Nat.le_refl _
  | more _ _ ih => exact Nat.le_succ_of_le ih

/-- Whatever stands behind blanks that end with a character that is none is found there. -/
theorem skipBlanks_of_blanks {chars rest : List Char} {character : Char}
    (blanks : Blanks chars (character :: rest)) (black : isWhite character = false) :
    skipBlanks (ofChars chars) = .scalar character :: ofChars rest := by
  rw [skipBlanks_ofChars, unblanked_of_blanks blanks, unblanked_of_black black, ofChars_cons]

theorem blanks_of_skipBlanks {chars : List Char} {symbol : Symbol} {rest : Source}
    (found : skipBlanks (ofChars chars) = symbol :: rest) :
    ∃ character left, symbol = .scalar character ∧ rest = ofChars left ∧
      Blanks chars (character :: left) := by
  rw [skipBlanks_ofChars] at found
  have blanks := blanks_unblanked chars
  cases shape : unblanked chars with
  | nil => simp [shape] at found
  | cons character left =>
      rw [shape] at found blanks
      simp only [ofChars_cons, List.cons.injEq] at found
      exact ⟨character, left, found.1.symm, found.2.symm, blanks⟩

theorem black_of_skipBlanks {source rest : Source} {character : Char}
    (found : skipBlanks source = .scalar character :: rest) : isWhite character = false := by
  have head := List.head?_dropWhile_not isBlank source
  rw [← skipBlanks, found] at head
  simpa [isBlank_scalar] using head

theorem onFirst_sound {chars : List Char} {fault : Fault} {result : β}
    {behind : (symbol : Symbol) → (rest : Source) → skipBlanks (ofChars chars) = symbol :: rest →
      Except Fault β}
    (read : onFirst (ofChars chars) (.error fault) behind = .ok result) :
    ∃ character left found, Blanks chars (character :: left) ∧
      behind (.scalar character) (ofChars left) found = .ok result := by
  obtain ⟨symbol, rest, found, same⟩ := eq_of_onFirst read (by simp)
  obtain ⟨character, left, rfl, rfl, blanks⟩ := blanks_of_skipBlanks found
  exact ⟨character, left, found, blanks, same⟩

theorem isCharacter_scalar (wanted character : Char) :
    isCharacter wanted (.scalar character) = true ↔ character = wanted := by
  simp [isCharacter]

end Blanks

section Literals

theorem readLiteral_sound {literal chars : List Char} {rest : Source}
    (read : readLiteral literal (ofChars chars) = .ok rest) :
    ∃ left, rest = ofChars left ∧ chars = literal ++ left := by
  induction literal generalizing chars with
  | nil =>
      cases read
      exact ⟨chars, rfl, rfl⟩
  | cons wanted literal ih =>
      match chars with
      | [] => simp [readLiteral] at read
      | character :: chars =>
          simp only [ofChars_cons, readLiteral] at read
          split at read
          · rename_i same
            obtain rfl := (isCharacter_scalar _ _).mp same
            obtain ⟨left, rest, follows⟩ := ih read
            exact ⟨left, rest, by rw [follows]; rfl⟩
          · contradiction

theorem readLiteral_complete (literal left : List Char) :
    readLiteral literal (ofChars (literal ++ left)) = .ok (ofChars left) := by
  induction literal with
  | nil => rfl
  | cons wanted literal ih => simpa [readLiteral, isCharacter] using ih

end Literals

theorem readColon_exact :
    Exact readColon fun _ chars rest => Blanks chars (':' :: rest) where
  sound read := by
    unfold readColon at read
    obtain ⟨character, left, found, blanks, read⟩ := onFirst_sound read
    split at read
    · rename_i colon
      obtain rfl := (isCharacter_scalar _ _).mp colon
      cases read
      exact ⟨left, rfl, blanks⟩
    · contradiction
  complete blanks _ := by
    have found := skipBlanks_of_blanks blanks rfl
    refine ⟨length_lt_of_skipBlanks found, ?_⟩
    rw [readColon, onFirst_eq found]
    rfl

end CircuitDiagram.Json
