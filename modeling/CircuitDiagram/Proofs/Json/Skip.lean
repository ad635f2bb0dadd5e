import CircuitDiagram.Json.Skip
import CircuitDiagram.Proofs.Json.Numeral
import CircuitDiagram.Proofs.Json.Text

/-!
Passing a value. The brackets still open are kept on a stack, so nothing that is passed can be
told to be a value until the rest of what is around it has been seen. What the stack still owes is
the text up to each closing bracket, the innermost first; passing a value inside leaves the stack
as it was.
-/

namespace CircuitDiagram.Json

section Leaves

theorem skipLiteral_sound {literal : String} {character : Char} {chars : List Char}
    {taken : Taken Unit (ofChars (character :: chars))}
    (read : skipLiteral literal (ofChars (character :: chars)) = .ok taken) :
    ∃ left, taken.rest = ofChars left ∧ chars = literal.toList ++ left := by
  simp only [ofChars_cons, skipLiteral] at read
  split at read
  · contradiction
  · rename_i found
    cases read
    exact readLiteral_sound found

theorem skipLiteral_complete (literal : String) (character : Char) (left : List Char) :
    ∃ shorter, skipLiteral literal (ofChars (character :: (literal.toList ++ left))) =
      .ok ⟨(), ofChars left, shorter⟩ := by
  have found := readLiteral_complete literal.toList left
  refine ⟨length_lt_cons_of_readLiteral found, ?_⟩
  simp only [ofChars_cons, skipLiteral]
  split
  · rename_i failed
    rw [found] at failed
    contradiction
  · rename_i same
    cases found.symm.trans same
    rfl

theorem isDigit_scalar (character : Char) :
    isDigit (.scalar character) = character.isDigit := by
  rw [isDigit, digit_scalar]
  cases character.isDigit <;> rfl

theorem skipLeaf_sound {chars : List Char} {taken : Taken Unit (ofChars chars)}
    (read : skipLeaf (ofChars chars) = .ok taken) :
    ∃ tree left, taken.rest = ofChars left ∧ Spells (.value tree) chars left := by
  match chars with
  | [] => simp [skipLeaf] at read
  | character :: chars =>
      simp only [ofChars_cons, skipLeaf] at read
      split at read
      · rename_i head
        obtain rfl := (isCharacter_scalar _ _).mp head
        obtain ⟨left, rest, rfl⟩ := skipLiteral_sound read
        exact ⟨.null, left, rest, .null left⟩
      split at read
      · rename_i head
        obtain rfl := (isCharacter_scalar _ _).mp head
        obtain ⟨left, rest, rfl⟩ := skipLiteral_sound read
        exact ⟨.boolean true, left, rest, .yes left⟩
      split at read
      · rename_i head
        obtain rfl := (isCharacter_scalar _ _).mp head
        obtain ⟨left, rest, rfl⟩ := skipLiteral_sound read
        exact ⟨.boolean false, left, rest, .no left⟩
      split at read
      · obtain ⟨left, rest, numeral, spelled⟩ :=
          @ExactBefore.sound _ _ _ _ skipNumber_exact (character :: chars) _ read
        exact ⟨.number numeral, left, rest, .number spelled⟩
      split at read
      · rename_i head
        obtain rfl := (isCharacter_scalar _ _).mp head
        obtain ⟨_, text⟩ := widen_eq_ok.mp read
        obtain ⟨left, rest, marks, spelled⟩ := skipText_exact.sound text
        exact ⟨.text marks, left, rest, .text spelled⟩
      · contradiction

/-- A number does not begin with any other character than a digit or a minus sign. -/
theorem isCharacter_head_of_number {numeral : Numeral} {character letter : Char}
    {chars rest : List Char} (spelled : Number numeral (character :: chars) rest)
    (noDigit : letter.isDigit = false) (noMinus : letter ≠ '-') :
    isCharacter letter (.scalar character) = false := by
  simp only [isCharacter, beq_eq_false_iff_ne]
  rintro rfl
  rcases head_of_number spelled with isDigit | minus
  · rw [noDigit] at isDigit
    contradiction
  · cases minus
    contradiction

theorem noBracket_of_number {numeral : Numeral} {character : Char} {chars rest : List Char}
    (spelled : Number numeral (character :: chars) rest) :
    bracket? (.scalar character) = none := by
  simp [bracket?, isCharacter_head_of_number spelled]

theorem skipLeaf_complete {tree : Tree} {character : Char} {chars left : List Char}
    (spelled : Spells (.value tree) (character :: chars) left)
    (noBracket : bracket? (.scalar character) = none) (delimited : Delimited left) :
    ∃ shorter, skipLeaf (ofChars (character :: chars)) = .ok ⟨(), ofChars left, shorter⟩ := by
  cases spelled with
  | null => exact skipLiteral_complete "ull" 'n' left
  | yes => exact skipLiteral_complete "rue" 't' left
  | no => exact skipLiteral_complete "alse" 'f' left
  | text spelled =>
      obtain ⟨shorter, read⟩ := skipText_exact.complete ⟨_, spelled⟩ trivial
      exact ⟨length_lt_cons_of_lt shorter, widen_eq_ok.mpr ⟨shorter, read⟩⟩
  | number spelled =>
      obtain ⟨shorter, read⟩ : ∃ shorter, skipNumber (ofChars (character :: chars)) =
          .ok ⟨(), ofChars left, shorter⟩ := skipNumber_exact.complete ⟨_, spelled⟩ delimited
      refine ⟨shorter, ?_⟩
      have head : isCharacter '-' (.scalar character) || isDigit (.scalar character) := by
        rw [isDigit_scalar]
        rcases head_of_number spelled with isDigit | rfl
        · simp [isDigit]
        · rfl
      simp only [ofChars_cons] at read ⊢
      simp [skipLeaf, head, read, isCharacter_head_of_number spelled]
  | emptyList | list | emptyObject | object => contradiction

end Leaves

section Brackets

def Bracket.opening : Bracket → Char
  | .list => '['
  | .object => '{'

def Bracket.closing : Bracket → Char
  | .list => ']'
  | .object => '}'

/-- What stands between the brackets, the closing one included, if it is not empty. -/
def Bracket.Inside : Bracket → List Char → List Char → Prop
  | .list, chars, rest => ∃ elements, Spells (.elements elements) chars rest
  | .object, chars, rest => ∃ members, Spells (.members members) chars rest

/-- What follows an element or a member, up to the closing bracket. -/
def Bracket.More : Bracket → List Char → List Char → Prop
  | .list, chars, rest => ∃ elements, Spells (.moreElements elements) chars rest
  | .object, chars, rest => ∃ members, Spells (.moreMembers members) chars rest

variable {bracket : Bracket} {chars next rest : List Char}

theorem bracket_scalar {character : Char} (opens : bracket? (.scalar character) = some bracket) :
    character = bracket.opening := by
  unfold bracket? at opens
  split at opens
  · rename_i list
    cases opens
    exact (isCharacter_scalar _ _).mp list
  · split at opens
    · rename_i object
      cases opens
      exact (isCharacter_scalar _ _).mp object
    · contradiction

theorem closes_scalar {character : Char} :
    bracket.closes (.scalar character) = true ↔ character = bracket.closing := by
  cases bracket <;> exact isCharacter_scalar _ _

theorem Bracket.value_of_empty (blanks : Blanks chars (bracket.closing :: rest)) :
    ∃ tree, Spells (.value tree) (bracket.opening :: chars) rest := by
  cases bracket with
  | list => exact ⟨_, .emptyList blanks⟩
  | object => exact ⟨_, .emptyObject blanks⟩

theorem Bracket.value_of_inside (inside : bracket.Inside chars rest) :
    ∃ tree, Spells (.value tree) (bracket.opening :: chars) rest := by
  cases bracket with
  | list => exact inside.elim fun _ spelled => ⟨_, .list spelled⟩
  | object => exact inside.elim fun _ spelled => ⟨_, .object spelled⟩

theorem Bracket.more_of_closing (blanks : Blanks chars (bracket.closing :: rest)) :
    bracket.More chars rest := by
  cases bracket with
  | list => exact ⟨_, .noElement blanks⟩
  | object => exact ⟨_, .noMember blanks⟩

theorem Bracket.more_of_comma (blanks : Blanks chars (',' :: next))
    (inside : bracket.Inside next rest) : bracket.More chars rest := by
  cases bracket with
  | list => exact inside.elim fun _ spelled => ⟨_, .nextElement blanks spelled⟩
  | object => exact inside.elim fun _ spelled => ⟨_, .nextMember blanks spelled⟩

end Brackets

/-- A key with its colon. -/
def Key (marks : List Mark) (chars rest : List Char) : Prop :=
  ∃ quoted behind, Blanks chars ('"' :: quoted) ∧ Marks marks quoted behind ∧
    Blanks behind (':' :: rest)

theorem skipKey_exact : Exact skipKey fun _ chars rest => ∃ marks, Key marks chars rest where
  sound {chars taken} read := by
    unfold skipKey at read
    obtain ⟨character, quoted, found, blanks, read⟩ := onFirst_sound read
    split at read
    · rename_i quote
      obtain rfl := (isCharacter_scalar _ _).mp quote
      split at read
      · contradiction
      · rename_i name behind shorter text
        obtain ⟨behind, rfl, marks, spelled⟩ := skipText_exact.sound text
        obtain ⟨_, colon⟩ := widen_eq_ok.mp read
        obtain ⟨left, rest, colon⟩ := readColon_exact.sound colon
        exact ⟨left, rest, marks, quoted, behind, blanks, spelled, colon⟩
    · contradiction
  complete {chars left _} spelled _ := by
    obtain ⟨marks, quoted, behind, blanks, spelled, colon⟩ := spelled
    have found := skipBlanks_of_blanks blanks rfl
    obtain ⟨shorter, text⟩ : ∃ shorter, skipText (ofChars quoted) =
      .ok ⟨(), ofChars behind, shorter⟩ := skipText_exact.complete ⟨marks, spelled⟩ trivial
    obtain ⟨fewer, colon⟩ : ∃ fewer, readColon (ofChars behind) =
      .ok ⟨(), ofChars left, fewer⟩ := readColon_exact.complete colon trivial
    refine ⟨length_lt_trans (length_lt_of_skipBlanks found) (length_lt_trans shorter fewer), ?_⟩
    rw [skipKey, onFirst_eq found]
    simp only [isCharacter, BEq.rfl, ↓reduceIte, text]
    exact widen_eq_ok.mpr ⟨fewer, colon⟩

section Passing

variable {start : Source}

/-- What is left of the open brackets is passed behind `left`. -/
def Passes (opened : List Bracket) (left : List Char) (taken : Taken Unit start) : Prop :=
  ∃ within, skipBehind opened (ofChars left) within = .ok taken

-- Inside a bracket the functions come back to each other with a higher stack. So each is said to
-- pass a part of its own, and to leave the stack that it was given to what is behind that part.
structure PassingSound (start : Source) (chars : List Char) : Prop where
  inside {opened : List Bracket} {within : (ofChars chars).length ≤ start.length}
    {taken : Taken Unit start} (read : skipInside opened (ofChars chars) within = .ok taken) :
    ∃ first tree left, Blanks chars first ∧ Spells (.value tree) first left ∧
      Passes opened left taken
  next {bracket : Bracket} {opened : List Bracket}
    {within : (ofChars chars).length < start.length} {taken : Taken Unit start}
    (read : skipNext bracket opened (ofChars chars) within = .ok taken) :
    ∃ left, bracket.Inside chars left ∧ Passes opened left taken
  behind {bracket : Bracket} {opened : List Bracket}
    {within : (ofChars chars).length < start.length} {taken : Taken Unit start}
    (read : skipBehind (bracket :: opened) (ofChars chars) within = .ok taken) :
    ∃ left, bracket.More chars left ∧ Passes opened left taken

theorem skipOpened_sound {bracket : Bracket} {opened : List Bracket} {chars : List Char}
    {within : (ofChars chars).length < start.length} {taken : Taken Unit start}
    (passing : PassingSound start chars)
    (read : skipOpened bracket opened (ofChars chars) within = .ok taken) :
    ∃ tree left, Spells (.value tree) (bracket.opening :: chars) left ∧
      Passes opened left taken := by
  rw [skipOpened] at read
  obtain ⟨character, left, found, blanks, read⟩ := onFirst_sound read
  split at read
  · rename_i closes
    obtain rfl := closes_scalar.mp closes
    obtain ⟨tree, spelled⟩ := Bracket.value_of_empty blanks
    exact ⟨tree, left, spelled, _, read⟩
  · obtain ⟨left, inside, passes⟩ := passing.next read
    obtain ⟨tree, spelled⟩ := Bracket.value_of_inside inside
    exact ⟨tree, left, spelled, passes⟩

section Further

variable {chars : List Char} {opened : List Bracket} {taken : Taken Unit start}

theorem skipInside_sound
    (further : ∀ left : List Char, left.length < chars.length → PassingSound start left)
    {within : (ofChars chars).length ≤ start.length}
    (read : skipInside opened (ofChars chars) within = .ok taken) :
    ∃ first tree left, Blanks chars first ∧ Spells (.value tree) first left ∧
      Passes opened left taken := by
  rw [skipInside] at read
  obtain ⟨character, behind, found, blanks, read⟩ := onFirst_sound read
  split at read
  · rename_i bracket opens
    obtain rfl := bracket_scalar opens
    have fewer : behind.length < chars.length := length_le_of_blanks blanks
    obtain ⟨tree, left, spelled, passes⟩ := skipOpened_sound (further behind fewer) read
    exact ⟨_, tree, left, blanks, spelled, passes⟩
  · split at read
    · contradiction
    · rename_i leaf
      obtain ⟨tree, left, rfl, spelled⟩ := @skipLeaf_sound (character :: behind) _ leaf
      exact ⟨_, tree, left, blanks, spelled, _, read⟩

theorem skipNext_sound
    (further : ∀ left : List Char, left.length < chars.length → PassingSound start left)
    {bracket : Bracket} {within : (ofChars chars).length < start.length}
    (read : skipNext bracket opened (ofChars chars) within = .ok taken) :
    ∃ left, bracket.Inside chars left ∧ Passes opened left taken := by
  cases bracket with
  | list =>
      rw [skipNext] at read
      obtain ⟨first, tree, left, blanks, spelled, _, passes⟩ := skipInside_sound further read
      have fewer : left.length < chars.length :=
        Nat.lt_of_lt_of_le (length_lt_of_spells spelled) (length_le_of_blanks blanks)
      obtain ⟨left, ⟨elements, others⟩, passes⟩ := (further left fewer).behind passes
      exact ⟨left, ⟨tree :: elements, .element blanks spelled others⟩, passes⟩
  | object =>
      rw [skipNext] at read
      split at read
      · contradiction
      · rename_i key
        obtain ⟨colon, rfl, marks, quoted, behind, blanks, name, toColon⟩ :=
          skipKey_exact.sound key
        have fewer : colon.length < chars.length := by
          have quote := length_le_of_blanks blanks
          have nameEnd := length_lt_of_marks name
          have colonEnd := length_le_of_blanks toColon
          simp only [List.length_cons] at quote colonEnd
          omega
        obtain ⟨first, tree, left, blanksThen, spelled, _, passes⟩ :=
          (further colon fewer).inside read
        have fewerLeft : left.length < chars.length := by
          have value := length_lt_of_spells spelled
          have before := length_le_of_blanks blanksThen
          omega
        -- The value was passed with its object on the stack, which still owes the other members.
        obtain ⟨left, ⟨members, others⟩, passes⟩ := (further left fewerLeft).behind passes
        exact ⟨left, ⟨_, .member blanks name toColon blanksThen spelled others⟩, passes⟩

theorem skipBehind_sound
    (further : ∀ left : List Char, left.length < chars.length → PassingSound start left)
    {bracket : Bracket} {within : (ofChars chars).length < start.length}
    (read : skipBehind (bracket :: opened) (ofChars chars) within = .ok taken) :
    ∃ left, bracket.More chars left ∧ Passes opened left taken := by
  rw [skipBehind] at read
  obtain ⟨character, behind, found, blanks, read⟩ := onFirst_sound read
  split at read
  · rename_i closes
    obtain rfl := closes_scalar.mp closes
    exact ⟨behind, Bracket.more_of_closing blanks, _, read⟩
  · split at read
    · rename_i comma
      obtain rfl := (isCharacter_scalar _ _).mp comma
      have fewer : behind.length < chars.length := length_le_of_blanks blanks
      obtain ⟨left, inside, passes⟩ := (further behind fewer).next read
      exact ⟨left, Bracket.more_of_comma blanks inside, passes⟩
    · contradiction

end Further

/-- Each function goes on at a place further on, or asks another that does, so one induction on
the length of the text carries them all. -/
theorem passing_sound (start : Source) (chars : List Char) : PassingSound start chars := by
  induction size : chars.length using Nat.strongRecOn generalizing chars with
  | ind count ih =>
    have further : ∀ left : List Char, left.length < chars.length → PassingSound start left :=
      fun left fewer => ih left.length (size ▸ fewer) left rfl
    exact ⟨skipInside_sound further, skipNext_sound further, skipBehind_sound further⟩

variable {bracket : Bracket} {opened : List Bracket} {before chars next rest : List Char}

theorem skipInside_bracket {within : (ofChars before).length ≤ start.length}
    (blanks : Blanks before (bracket.opening :: chars)) :
    ∃ fewer, skipInside opened (ofChars before) within =
      skipOpened bracket opened (ofChars chars) fewer := by
  have black : isWhite bracket.opening = false := by cases bracket <;> rfl
  have opens : bracket? (.scalar bracket.opening) = some bracket := by cases bracket <;> rfl
  have found := skipBlanks_of_blanks blanks black
  refine ⟨length_lt_of_lt_of_le (length_lt_of_skipBlanks found) within, ?_⟩
  rw [skipInside, onFirst_eq found]
  split
  · rename_i opensOther
    cases opens.symm.trans opensOther
    rfl
  · rename_i none
    rw [opens] at none
    contradiction

theorem skipInside_leaf {tree : Tree} {character : Char}
    {within : (ofChars before).length ≤ start.length}
    (blanks : Blanks before (character :: chars))
    (spelled : Spells (.value tree) (character :: chars) rest)
    (noBracket : bracket? (.scalar character) = none) (delimited : Delimited rest) :
    ∃ fewer, skipInside opened (ofChars before) within =
      skipBehind opened (ofChars rest) fewer := by
  obtain ⟨shorter, leaf⟩ := skipLeaf_complete spelled noBracket delimited
  have found : skipBlanks (ofChars before) = .scalar character :: ofChars chars :=
    skipBlanks_of_value blanks spelled
  have passed := length_lt_of_skipBlanks_of_lt found shorter
  refine ⟨length_lt_of_lt_of_le passed within, ?_⟩
  rw [skipInside, onFirst_eq found]
  split
  · rename_i opens
    rw [noBracket] at opens
    contradiction
  · simp only [ofChars_cons] at leaf
    simp [leaf]

theorem skipOpened_closing {within : (ofChars chars).length < start.length}
    (blanks : Blanks chars (bracket.closing :: rest)) :
    ∃ fewer, skipOpened bracket opened (ofChars chars) within =
      skipBehind opened (ofChars rest) fewer := by
  have black : isWhite bracket.closing = false := by cases bracket <;> rfl
  have found := skipBlanks_of_blanks blanks black
  refine ⟨length_lt_trans within (length_lt_of_skipBlanks found), ?_⟩
  rw [skipOpened, onFirst_eq found]
  rw [if_pos (closes_scalar.mpr rfl)]

/-- What stands between brackets does not begin with the closing one. -/
theorem head_of_inside (inside : bracket.Inside chars rest) :
    ∃ character others, Blanks chars (character :: others) ∧ isWhite character = false ∧
      character ≠ bracket.closing := by
  cases bracket with
  | list =>
      obtain ⟨elements, spelled⟩ := inside
      cases spelled with
      | element blanks first _ =>
          obtain ⟨character, others, rfl, begins⟩ := head_of_value first
          exact ⟨character, others, blanks, black_of_beginsValue begins,
            ne_of_beginsValue begins rfl⟩
  | object =>
      obtain ⟨members, spelled⟩ := inside
      cases spelled with
      | member blanks => exact ⟨'"', _, blanks, rfl, by decide⟩

theorem skipOpened_inside {within : (ofChars chars).length < start.length}
    (inside : bracket.Inside chars rest) :
    skipOpened bracket opened (ofChars chars) within =
      skipNext bracket opened (ofChars chars) within := by
  obtain ⟨character, others, blanks, black, different⟩ := head_of_inside inside
  have found := skipBlanks_of_blanks blanks black
  rw [skipOpened, onFirst_eq found]
  rw [if_neg (fun closes => different (closes_scalar.mp closes))]

theorem skipBehind_closing {within : (ofChars chars).length < start.length}
    (blanks : Blanks chars (bracket.closing :: rest)) :
    ∃ fewer, skipBehind (bracket :: opened) (ofChars chars) within =
      skipBehind opened (ofChars rest) fewer := by
  have black : isWhite bracket.closing = false := by cases bracket <;> rfl
  have found := skipBlanks_of_blanks blanks black
  refine ⟨length_lt_trans within (length_lt_of_skipBlanks found), ?_⟩
  rw [skipBehind, onFirst_eq found]
  rw [if_pos (closes_scalar.mpr rfl)]

theorem skipBehind_comma {within : (ofChars chars).length < start.length}
    (blanks : Blanks chars (',' :: next)) :
    ∃ fewer, skipBehind (bracket :: opened) (ofChars chars) within =
      skipNext bracket opened (ofChars next) fewer := by
  have different : ',' ≠ bracket.closing := by cases bracket <;> decide
  have found := skipBlanks_of_blanks blanks rfl
  refine ⟨length_lt_trans within (length_lt_of_skipBlanks found), ?_⟩
  rw [skipBehind, onFirst_eq found]
  rw [if_neg (fun closes => different (closes_scalar.mp closes)),
    if_pos ((isCharacter_scalar _ _).mpr rfl)]

/-- What the grammar allows is passed, and the stack is gone on with behind it. -/
def Skips (start : Source) : Part → List Char → List Char → Prop
  | .value _, chars, rest =>
      Delimited rest → ∀ (before : List Char) (opened : List Bracket)
        (within : (ofChars before).length ≤ start.length), Blanks before chars →
        ∃ fewer, skipInside opened (ofChars before) within =
          skipBehind opened (ofChars rest) fewer
  | .elements _, chars, rest =>
      ∀ (opened : List Bracket) (within : (ofChars chars).length < start.length),
        ∃ fewer, skipNext .list opened (ofChars chars) within =
          skipBehind opened (ofChars rest) fewer
  | .moreElements _, chars, rest =>
      ∀ (opened : List Bracket) (within : (ofChars chars).length < start.length),
        ∃ fewer, skipBehind (.list :: opened) (ofChars chars) within =
          skipBehind opened (ofChars rest) fewer
  | .members _, chars, rest =>
      ∀ (opened : List Bracket) (within : (ofChars chars).length < start.length),
        ∃ fewer, skipNext .object opened (ofChars chars) within =
          skipBehind opened (ofChars rest) fewer
  | .moreMembers _, chars, rest =>
      ∀ (opened : List Bracket) (within : (ofChars chars).length < start.length),
        ∃ fewer, skipBehind (.object :: opened) (ofChars chars) within =
          skipBehind opened (ofChars rest) fewer

theorem skips_empty {tree : Tree} (blanks : Blanks chars (bracket.closing :: rest)) :
    Skips start (.value tree) (bracket.opening :: chars) rest := by
  intro _ before opened within blanksBefore
  obtain ⟨inner, opens⟩ := @skipInside_bracket _ _ opened _ _ within blanksBefore
  rw [opens]
  exact skipOpened_closing blanks

theorem skips_inside {tree : Tree} (inside : bracket.Inside chars rest)
    (passed : ∀ (opened : List Bracket) (within : (ofChars chars).length < start.length),
      ∃ fewer, skipNext bracket opened (ofChars chars) within =
        skipBehind opened (ofChars rest) fewer) :
    Skips start (.value tree) (bracket.opening :: chars) rest := by
  intro _ before opened within blanksBefore
  obtain ⟨inner, opens⟩ := @skipInside_bracket _ _ opened _ _ within blanksBefore
  rw [opens, skipOpened_inside inside]
  exact passed opened inner

theorem skips_leaf {tree : Tree} {character : Char}
    (spelled : Spells (.value tree) (character :: chars) rest)
    (noBracket : bracket? (.scalar character) = none) :
    Skips start (.value tree) (character :: chars) rest :=
  fun delimited _ _ _ blanks => skipInside_leaf blanks spelled noBracket delimited

-- For every stack at once, because what is inside brackets is passed on a higher one.
theorem skips_of_spells {part : Part} (spelled : Spells part chars rest) :
    Skips start part chars rest := by
  induction spelled with
  | null rest => exact skips_leaf (.null rest) rfl
  | yes rest => exact skips_leaf (.yes rest) rfl
  | no rest => exact skips_leaf (.no rest) rfl
  | text spelled => exact skips_leaf (.text spelled) rfl
  | number spelled =>
      obtain ⟨character, others, rfl, begins⟩ := head_of_value (.number spelled)
      exact skips_leaf (.number spelled) (noBracket_of_number spelled)
  | emptyList blanks => exact @skips_empty _ .list _ _ _ blanks
  | emptyObject blanks => exact @skips_empty _ .object _ _ _ blanks
  | list inside ih => exact @skips_inside _ .list _ _ _ ⟨_, inside⟩ ih
  | object inside ih => exact @skips_inside _ .object _ _ _ ⟨_, inside⟩ ih
  | element blanks _ others first behind =>
      intro opened within
      rw [skipNext]
      obtain ⟨inner, passed⟩ := first (delimited_of_moreElements others) _ (.list :: opened)
        (length_le_of_lt within) blanks
      rw [passed]
      exact behind opened inner
  | noElement blanks => exact fun _ _ => skipBehind_closing blanks
  | nextElement blanks _ ih =>
      intro opened within
      obtain ⟨inner, comma⟩ := @skipBehind_comma _ .list opened _ _ within blanks
      rw [comma]
      exact ih opened inner
  | @member name _ _ chars _ _ behindColon _ _ _ blanks nameSpelled colon blanksThen _ others
      value behind =>
      intro opened within
      rw [skipNext]
      obtain ⟨shorter, key⟩ : ∃ shorter, skipKey (ofChars chars) =
        .ok ⟨(), ofChars behindColon, shorter⟩ :=
        skipKey_exact.complete ⟨name, _, _, blanks, nameSpelled, colon⟩ trivial
      obtain ⟨inner, passed⟩ := value (delimited_of_moreMembers others) _ (.object :: opened)
        (length_le_of_lt_of_le shorter (length_le_of_lt within)) blanksThen
      simp only [key, passed]
      exact behind opened inner
  | noMember blanks => exact fun _ _ => skipBehind_closing blanks
  | nextMember blanks _ ih =>
      intro opened within
      obtain ⟨inner, comma⟩ := @skipBehind_comma _ .object opened _ _ within blanks
      rw [comma]
      exact ih opened inner

end Passing

/-- Passing a value accepts just the values of the grammar, whatever they hold and however deep. -/
theorem skipValue_exact :
    ExactBefore Delimited skipValue fun _ chars rest =>
      ∃ start tree, Blanks chars start ∧ Spells (.value tree) start rest where
  sound {chars taken} read := by
    obtain ⟨first, tree, left, blanks, spelled, within, passed⟩ :=
      (passing_sound (ofChars chars) chars).inside read
    rw [skipBehind] at passed
    cases passed
    exact ⟨left, rfl, first, tree, blanks, spelled⟩
  complete {chars left _} spelled delimited := by
    obtain ⟨first, tree, blanks, spelled⟩ := spelled
    obtain ⟨within, passed⟩ := skips_of_spells spelled delimited chars []
      (length_le_self (ofChars chars)) blanks
    refine ⟨within, ?_⟩
    rw [skipValue, passed, skipBehind]

end CircuitDiagram.Json
