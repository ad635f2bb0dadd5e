import CircuitDiagram.Proofs.Json.Exact

/-!
Every value of the grammar takes up some of the text, and begins with a character that is no white
space and closes nothing. Whatever a reader finds first behind blanks is the head of the value.
-/

namespace CircuitDiagram.Json

theorem length_le_of_digits {digits : List Nat} {chars rest : List Char}
    (spelled : Digits digits chars rest) : rest.length ≤ chars.length := by
  induction spelled with
  | none => exact Nat.le_refl _
  | more _ _ ih => exact Nat.le_succ_of_le ih

theorem length_lt_of_digits {digit : Nat} {digits : List Nat} {chars rest : List Char}
    (spelled : Digits (digit :: digits) chars rest) : rest.length < chars.length := by
  cases spelled with
  | more _ others => exact Nat.lt_succ_of_le (length_le_of_digits others)

theorem length_lt_of_whole {whole : List Nat} {chars rest : List Char}
    (spelled : Whole whole chars rest) : rest.length < chars.length := by
  cases spelled with
  | zero => exact Nat.lt_succ_self _
  | digits _ spelled => exact length_lt_of_digits spelled

theorem length_le_of_fraction {fraction : Option (List Nat)} {chars rest : List Char}
    (spelled : Fraction fraction chars rest) : rest.length ≤ chars.length := by
  cases spelled with
  | none => exact Nat.le_refl _
  | digits spelled => exact Nat.le_succ_of_le (Nat.le_of_lt (length_lt_of_digits spelled))

theorem length_le_of_exponent {exponent : Option (Bool × List Nat)} {chars rest : List Char}
    (spelled : Exponent exponent chars rest) : rest.length ≤ chars.length := by
  cases spelled with
  | none => exact Nat.le_refl _
  | digits _ sign spelled =>
      have shorter := length_lt_of_digits spelled
      cases sign <;> simp only [List.length_cons] at * <;> omega

theorem length_lt_of_magnitude {numeral : Numeral} {chars rest : List Char}
    (spelled : Magnitude numeral chars rest) : rest.length < chars.length := by
  cases spelled with
  | mk whole fraction exponent =>
      have shorter := length_lt_of_whole whole
      have behindWhole := length_le_of_fraction fraction
      have behindFraction := length_le_of_exponent exponent
      omega

theorem length_lt_of_number {numeral : Numeral} {chars rest : List Char}
    (spelled : Number numeral chars rest) : rest.length < chars.length := by
  cases spelled with
  | positive _ spelled => exact length_lt_of_magnitude spelled
  | negative _ spelled => exact Nat.lt_succ_of_lt (length_lt_of_magnitude spelled)

theorem length_lt_of_marks {marks : List Mark} {chars rest : List Char}
    (spelled : Marks marks chars rest) : rest.length < chars.length := by
  induction spelled with
  | none => exact Nat.lt_succ_self _
  | plain _ _ _ _ ih => exact Nat.lt_succ_of_lt ih
  | short _ _ ih => exact Nat.lt_succ_of_lt (Nat.lt_succ_of_lt ih)
  | unit digits _ ih =>
      cases digits
      simp only [List.length_cons]
      omega

theorem length_lt_of_spells {part : Part} {chars rest : List Char}
    (spelled : Spells part chars rest) : rest.length < chars.length := by
  induction spelled with
  | null | yes | no =>
      simp only [List.length_cons]
      omega
  | number spelled => exact length_lt_of_number spelled
  | text spelled => exact Nat.lt_succ_of_lt (length_lt_of_marks spelled)
  | emptyList blanks | emptyObject blanks =>
      have behind := length_le_of_blanks blanks
      simp only [List.length_cons] at *
      omega
  | list _ ih | object _ ih => exact Nat.lt_succ_of_lt ih
  | noElement blanks | noMember blanks =>
      have behind := length_le_of_blanks blanks
      simp only [List.length_cons] at behind
      omega
  | element blanks _ _ first others =>
      have before := length_le_of_blanks blanks
      omega
  | nextElement blanks _ ih | nextMember blanks _ ih =>
      have before := length_le_of_blanks blanks
      simp only [List.length_cons] at before
      omega
  | member blanks name colon blanksThen _ _ value others =>
      have quote := length_le_of_blanks blanks
      have behindName := length_lt_of_marks name
      have behindColon := length_le_of_blanks colon
      have start := length_le_of_blanks blanksThen
      simp only [List.length_cons] at *
      omega

section Heads

/-- A character that a value can begin with. -/
def beginsValue (character : Char) : Bool :=
  character.isDigit || character ∈ ['n', 't', 'f', '-', '"', '[', '{']

theorem head_of_digits {digit : Nat} {digits : List Nat} {chars rest : List Char}
    (spelled : Digits (digit :: digits) chars rest) :
    ∃ character others, chars = character :: others ∧ character.isDigit = true ∧
      digit = character.toNat - '0'.toNat ∧ Digits digits others rest := by
  cases spelled with
  | more isDigit others => exact ⟨_, _, rfl, isDigit, rfl, others⟩

theorem head_of_magnitude {numeral : Numeral} {chars rest : List Char}
    (spelled : Magnitude numeral chars rest) :
    ∃ character others, chars = character :: others ∧ character.isDigit = true := by
  cases spelled with
  | mk whole _ _ =>
      cases whole with
      | zero => exact ⟨'0', _, rfl, by decide⟩
      | digits _ spelled =>
          obtain ⟨character, others, same, isDigit, -⟩ := head_of_digits spelled
          exact ⟨character, others, same, isDigit⟩

theorem head_of_number {numeral : Numeral} {character : Char} {chars rest : List Char}
    (spelled : Number numeral (character :: chars) rest) :
    character.isDigit = true ∨ character = '-' := by
  cases spelled with
  | positive _ spelled =>
      obtain ⟨_, others, same, isDigit⟩ := head_of_magnitude spelled
      cases same
      exact .inl isDigit
  | negative => exact .inr rfl

theorem text_of_quote {tree : Tree} {chars rest : List Char}
    (spelled : Spells (.value tree) ('"' :: chars) rest) :
    ∃ marks, tree = .text marks ∧ Marks marks chars rest := by
  cases spelled with
  | text spelled => exact ⟨_, rfl, spelled⟩
  | number spelled => exact absurd (head_of_number spelled) (by decide)

theorem list_of_bracket {tree : Tree} {chars rest : List Char}
    (spelled : Spells (.value tree) ('[' :: chars) rest) : ∃ elements, tree = .list elements := by
  cases spelled with
  | emptyList | list => exact ⟨_, rfl⟩
  | number spelled => exact absurd (head_of_number spelled) (by decide)

theorem object_of_brace {tree : Tree} {chars rest : List Char}
    (spelled : Spells (.value tree) ('{' :: chars) rest) : ∃ members, tree = .object members := by
  cases spelled with
  | emptyObject | object => exact ⟨_, rfl⟩
  | number spelled => exact absurd (head_of_number spelled) (by decide)

theorem head_of_value {tree : Tree} {chars rest : List Char}
    (spelled : Spells (.value tree) chars rest) :
    ∃ character others, chars = character :: others ∧ beginsValue character = true := by
  cases spelled with
  | null | yes | no | text | emptyList | list | emptyObject | object => exact ⟨_, _, rfl, rfl⟩
  | number spelled =>
      cases spelled with
      | positive _ spelled =>
          obtain ⟨character, others, same, isDigit⟩ := head_of_magnitude spelled
          exact ⟨character, others, same, by simp [beginsValue, isDigit]⟩
      | negative _ spelled => exact ⟨_, _, rfl, rfl⟩

theorem ne_of_beginsValue {character other : Char} (begins : beginsValue character = true)
    (noBeginning : beginsValue other = false) : character ≠ other := by
  rintro rfl
  rw [begins] at noBeginning
  contradiction

theorem black_of_beginsValue {character : Char} (begins : beginsValue character = true) :
    isWhite character = false := by
  rw [Bool.eq_false_iff]
  intro white
  simp only [isWhite, List.mem_cons, List.not_mem_nil, or_false, decide_eq_true_eq] at white
  rcases white with rfl | rfl | rfl | rfl <;> contradiction

/-- Behind blanks before a value there is the head of the value. -/
theorem skipBlanks_of_value {tree : Tree} {before chars rest : List Char}
    (blanks : Blanks before chars) (spelled : Spells (.value tree) chars rest) :
    skipBlanks (ofChars before) = ofChars chars := by
  obtain ⟨character, others, rfl, begins⟩ := head_of_value spelled
  exact skipBlanks_of_blanks blanks (black_of_beginsValue begins)

end Heads

section Ends

-- No number goes on with white space, nor with what follows an element or a member.
theorem delimited_of_blanks {chars rest : List Char} (blanks : Blanks chars rest)
    (delimited : Delimited rest) : Delimited chars := by
  cases blanks with
  | none => exact delimited
  | @more character _ _ white =>
      simp only [isWhite, List.mem_cons, List.not_mem_nil, or_false, decide_eq_true_eq] at white
      rcases white with rfl | rfl | rfl | rfl <;> rfl

theorem delimited_of_moreElements {elements : List Tree} {chars rest : List Char}
    (spelled : Spells (.moreElements elements) chars rest) : Delimited chars := by
  cases spelled with
  | noElement blanks => exact delimited_of_blanks blanks rfl
  | nextElement blanks => exact delimited_of_blanks blanks rfl

theorem delimited_of_moreMembers {members : List (List Mark × Tree)} {chars rest : List Char}
    (spelled : Spells (.moreMembers members) chars rest) : Delimited chars := by
  cases spelled with
  | noMember blanks => exact delimited_of_blanks blanks rfl
  | nextMember blanks => exact delimited_of_blanks blanks rfl

end Ends

end CircuitDiagram.Json
