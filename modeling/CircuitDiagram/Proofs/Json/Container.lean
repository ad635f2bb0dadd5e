import CircuitDiagram.Proofs.Json.Skip

/-!
Lists and objects. A reader of a value is given by a shape, which says what a tree stands for if
it stands for anything. From the shapes of the elements or members the lemmas here make the shape
of what holds them.
-/

namespace CircuitDiagram.Json

variable {α β σ : Type}

/-- A value of the given shape, behind blanks. -/
def Shaped (shape : Tree → Option α) : Spelling α := fun value chars rest =>
  ∃ start tree, Blanks chars start ∧ Spells (.value tree) start rest ∧ shape tree = some value

/-- A value of the given shape, from behind its first character. -/
def ShapedBehind (character : Char) (shape : Tree → Option α) : Spelling α :=
  fun value chars rest =>
    ∃ tree, Spells (.value tree) (character :: chars) rest ∧ shape tree = some value

section Choice

variable {wanted : Wanted} {choice : Symbol → Option (Reader α)} {shape : Tree → Option α}

/-- A reader that chooses by the first character behind blanks is exact if its choices are, and if
there is a choice for each value of the shape. -/
theorem choice_exact {reader : Reader α} {otherwise : Source → Fault}
    (reads : ∀ source, reader source =
      onFirst source (.error (.upon .valueEnds [])) fun symbol rest found =>
        match choice symbol with
        | some inner => (inner rest).widen (length_le_of_skipBlanks found)
        | none => .error (otherwise (symbol :: rest)))
    (each : ∀ character inner, choice (.scalar character) = some inner →
      Exact inner (ShapedBehind character shape))
    (covers : ∀ tree value character chars rest, shape tree = some value →
      Spells (.value tree) (character :: chars) rest →
        (choice (.scalar character)).isSome = true) :
    Exact reader (Shaped shape) where
  sound {chars taken} read := by
    rw [reads] at read
    obtain ⟨character, behind, found, blanks, read⟩ := onFirst_sound read
    split at read
    · rename_i inner chosen
      obtain ⟨_, read⟩ := widen_eq_ok.mp read
      obtain ⟨left, rest, tree, spelled, means⟩ := (each character inner chosen).sound read
      exact ⟨left, rest, _, tree, blanks, spelled, means⟩
    · contradiction
  complete {chars left value} shaped _ := by
    obtain ⟨start, tree, blanks, spelled, means⟩ := shaped
    obtain ⟨character, behind, rfl, begins⟩ := head_of_value spelled
    obtain ⟨inner, chosen⟩ :=
      Option.isSome_iff_exists.mp (covers tree value character behind left means spelled)
    obtain ⟨shorter, read⟩ := (each character inner chosen).complete ⟨tree, spelled, means⟩ trivial
    have found := skipBlanks_of_blanks blanks (black_of_beginsValue begins)
    refine ⟨length_lt_trans (length_lt_of_skipBlanks found) shorter, ?_⟩
    rw [reads, onFirst_eq found]
    simp only [chosen]
    exact widen_eq_ok.mpr ⟨shorter, read⟩

/-- A choice between two opening characters. -/
theorem either_exact {reader : Reader α} {otherwise : Source → Fault} {opening other : Char}
    {inner otherInner : Reader α}
    (reads : ∀ source, reader source =
      onFirst source (.error (.upon .valueEnds [])) fun symbol rest found =>
        match (if isCharacter opening symbol then some inner
          else if isCharacter other symbol then some otherInner else none) with
        | some inner => (inner rest).widen (length_le_of_skipBlanks found)
        | none => .error (otherwise (symbol :: rest)))
    (exact : Exact inner (ShapedBehind opening shape))
    (otherExact : Exact otherInner (ShapedBehind other shape))
    (opens : ∀ tree value character chars rest, shape tree = some value →
      Spells (.value tree) (character :: chars) rest →
        character = opening ∨ character = other) :
    Exact reader (Shaped shape) := by
  apply choice_exact reads
  · intro character chosen same
    split at same
    · rename_i first
      obtain rfl := (isCharacter_scalar _ _).mp first
      cases same
      exact exact
    · split at same
      · rename_i second
        obtain rfl := (isCharacter_scalar _ _).mp second
        cases same
        exact otherExact
      · contradiction
  · intro tree value character chars rest means spelled
    rcases opens tree value character chars rest means spelled with rfl | rfl
    · simp [isCharacter]
    · by_cases same : character = opening <;> simp [isCharacter, same]

/-- One opening character only. -/
theorem readShape_exact {opening : Char} {inner : Reader α}
    (exact : Exact inner (ShapedBehind opening shape))
    (opens : ∀ tree value character chars rest, shape tree = some value →
      Spells (.value tree) (character :: chars) rest → character = opening) :
    Exact
      (readShape wanted fun symbol => if isCharacter opening symbol then some inner else none)
      (Shaped shape) := by
  apply choice_exact fun _ => rfl
  · intro character chosen same
    split at same
    · rename_i first
      obtain rfl := (isCharacter_scalar _ _).mp first
      cases same
      exact exact
    · contradiction
  · intro tree value character chars rest means spelled
    obtain rfl := opens tree value character chars rest means spelled
    simp [isCharacter]

theorem readText_behind : Exact readText (ShapedBehind '"' shapeText) := by
  apply readText_exact.of_iff
  intro text chars rest
  constructor
  · rintro ⟨marks, spelled, means⟩
    exact ⟨.text marks, .text spelled, means⟩
  · rintro ⟨tree, spelled, means⟩
    obtain ⟨marks, rfl, inside⟩ := text_of_quote spelled
    exact ⟨marks, inside, means⟩

theorem readString_exact (wanted : Wanted) : Exact (readString wanted) (Shaped shapeText) := by
  apply readShape_exact readText_behind
  intro tree value character chars rest means spelled
  cases tree with
  | text => cases spelled; rfl
  | _ => cases means

end Choice

section Members

/-- A member of an object from behind its key: a colon, and a value of the given shape. -/
def MemberShaped (shape : Tree → Option α) : Spelling α := fun value chars rest =>
  ∃ behind, Blanks chars (':' :: behind) ∧ Shaped shape value behind rest

/-- A reader of colon and value, with what is made of the value. -/
theorem member_exact {reader : Reader α} {member : Reader β} {shape : Tree → Option α}
    {follows : List Char → Prop} (exact : ExactBefore follows reader (Shaped shape))
    (change : α → β)
    (reads : ∀ source, member source =
      match readColon source with
      | .error fault => .error fault
      | .ok ⟨_, rest, shorter⟩ =>
          match reader rest with
          | .error fault => .error fault
          | .ok ⟨value, left, shorterValue⟩ =>
              .ok ⟨change value, left, length_lt_trans shorter shorterValue⟩) :
    ExactBefore follows member (MemberShaped fun tree => (shape tree).map change) where
  sound {chars taken} read := by
    rw [reads] at read
    split at read
    · contradiction
    · rename_i colon
      obtain ⟨behind, rfl, blanks⟩ := readColon_exact.sound colon
      split at read
      · contradiction
      · rename_i found
        obtain ⟨left, rfl, start, tree, blanksThen, spelled, means⟩ := exact.sound found
        cases read
        exact ⟨left, rfl, behind, blanks, start, tree, blanksThen, spelled, by simp [means]⟩
  complete {chars left value} spelled follow := by
    obtain ⟨behind, blanks, start, tree, blanksThen, spelled, means⟩ := spelled
    obtain ⟨inner, found, rfl⟩ := Option.map_eq_some_iff.mp means
    obtain ⟨shorter, colon⟩ : ∃ shorter, readColon (ofChars chars) =
      .ok ⟨(), ofChars behind, shorter⟩ := readColon_exact.complete blanks trivial
    obtain ⟨fewer, read⟩ := exact.complete ⟨start, tree, blanksThen, spelled, found⟩ follow
    refine ⟨length_lt_trans shorter fewer, ?_⟩
    simp only [reads, colon, read]

/-- What the members of an object add up to. A member whose name says nothing adds up to
nothing. -/
def addMembers (step : σ → String → Tree → Option σ) :
    σ → List (List Mark × Tree) → Option σ
  | state, [] => some state
  | state, (name, tree) :: members =>
      (text? name).bind fun key =>
        (step state key tree).bind fun next => addMembers step next members

section Turns

theorem readKeyQuote_exact :
    Exact readKeyQuote fun turn chars rest => turn = .next ∧ Blanks chars ('"' :: rest) where
  sound {chars taken} read := by
    unfold readKeyQuote at read
    obtain ⟨character, behind, found, blanks, read⟩ := onFirst_sound read
    split at read
    · rename_i quote
      obtain rfl := (isCharacter_scalar _ _).mp quote
      cases read
      exact ⟨behind, rfl, rfl, blanks⟩
    · split at read <;> contradiction
  complete {chars left turn} spelled _ := by
    obtain ⟨rfl, blanks⟩ := spelled
    have found := skipBlanks_of_blanks blanks rfl
    refine ⟨length_lt_of_skipBlanks found, ?_⟩
    rw [readKeyQuote, onFirst_eq found]
    rfl

/-- The turn of an object, before its first member or behind a member. -/
def TurnFrom : Bool → Spelling Turn
  | _, .ended, chars, rest => Blanks chars ('}' :: rest)
  | true, .next, chars, rest => Blanks chars ('"' :: rest)
  | false, .next, chars, rest =>
      ∃ behind, Blanks chars (',' :: behind) ∧ Blanks behind ('"' :: rest)

theorem readTurn_sound {first : Bool} {chars : List Char} {taken : Taken Turn (ofChars chars)}
    (read : readTurn first (ofChars chars) = .ok taken) :
    ∃ left, taken.rest = ofChars left ∧ TurnFrom first taken.value chars left := by
  unfold readTurn at read
  obtain ⟨character, behind, found, blanks, read⟩ := onFirst_sound read
  split at read
  · rename_i close
    obtain rfl := (isCharacter_scalar _ _).mp close
    cases read
    cases first <;> exact ⟨behind, rfl, blanks⟩
  · cases first with
    | true =>
        simp only [↓reduceIte] at read
        split at read
        · rename_i quote
          obtain rfl := (isCharacter_scalar _ _).mp quote
          cases read
          exact ⟨behind, rfl, blanks⟩
        · contradiction
    | false =>
        simp only [Bool.false_eq_true, ↓reduceIte] at read
        split at read
        · rename_i comma
          obtain rfl := (isCharacter_scalar _ _).mp comma
          obtain ⟨_, read⟩ := widen_eq_ok.mp read
          obtain ⟨left, rest, turn, quote⟩ := readKeyQuote_exact.sound read
          obtain ⟨value, _, _⟩ := taken
          cases turn
          exact ⟨left, rest, behind, blanks, quote⟩
        · contradiction

theorem readTurn_ended (first : Bool) {chars left : List Char}
    (blanks : Blanks chars ('}' :: left)) :
    ∃ shorter, readTurn first (ofChars chars) = .ok ⟨.ended, ofChars left, shorter⟩ := by
  have found := skipBlanks_of_blanks blanks rfl
  refine ⟨length_lt_of_skipBlanks found, ?_⟩
  rw [readTurn, onFirst_eq found]
  rfl

theorem readTurn_next {first : Bool} {chars left : List Char}
    (spelled : TurnFrom first .next chars left) :
    ∃ shorter, readTurn first (ofChars chars) = .ok ⟨.next, ofChars left, shorter⟩ := by
  cases first with
  | true =>
      have found := skipBlanks_of_blanks spelled rfl
      refine ⟨length_lt_of_skipBlanks found, ?_⟩
      rw [readTurn, onFirst_eq found]
      rfl
  | false =>
      obtain ⟨behind, blanks, quote⟩ := spelled
      have found := skipBlanks_of_blanks blanks rfl
      obtain ⟨shorter, read⟩ := readKeyQuote_exact.complete ⟨rfl, quote⟩ trivial
      refine ⟨length_lt_trans (length_lt_of_skipBlanks found) shorter, ?_⟩
      rw [readTurn, onFirst_eq found]
      exact widen_eq_ok.mpr ⟨shorter, read⟩

theorem readTurn_exact (first : Bool) : Exact (readTurn first) (TurnFrom first) where
  sound := readTurn_sound
  complete {_ _ turn} spelled _ := by
    cases turn with
    | ended => exact readTurn_ended first (by cases first <;> exact spelled)
    | next => exact readTurn_next spelled

end Turns

/-- The members of an object with its closing bracket, from behind the opening one or from behind
a member. -/
def MembersFrom : Bool → List (List Mark × Tree) → List Char → List Char → Prop
  | true, members, chars, rest => Spells (.value (.object members)) ('{' :: chars) rest
  | false, members, chars, rest => Spells (.moreMembers members) chars rest

variable {first : Bool} {name : List Mark} {tree : Tree} {members : List (List Mark × Tree)}
  {chars quoted behindName behindColon start behind rest : List Char}

theorem membersFrom_none (ended : Blanks chars ('}' :: rest)) :
    MembersFrom first [] chars rest := by
  cases first with
  | true => exact .emptyObject ended
  | false => exact .noMember ended

theorem membersFrom_more (next : TurnFrom first .next chars quoted)
    (nameSpelled : Marks name quoted behindName) (colon : Blanks behindName (':' :: behindColon))
    (blanks : Blanks behindColon start) (value : Spells (.value tree) start behind)
    (others : MembersFrom false members behind rest) :
    MembersFrom first ((name, tree) :: members) chars rest := by
  cases first with
  | true => exact .object (.member next nameSpelled colon blanks value others)
  | false =>
      obtain ⟨inner, comma, quote⟩ := next
      exact .nextMember comma (.member quote nameSpelled colon blanks value others)

theorem membersFrom_nil (spelled : MembersFrom first [] chars rest) :
    Blanks chars ('}' :: rest) := by
  cases first with
  | true =>
      cases spelled with
      | emptyObject blanks => exact blanks
      | object inside => cases inside
  | false =>
      cases spelled with
      | noMember blanks => exact blanks
      | nextMember _ others => cases others

-- The first member and the later ones differ only in the turn before them.
theorem membersFrom_cons (spelled : MembersFrom first ((name, tree) :: members) chars rest) :
    ∃ quoted behindName behindColon start behind, TurnFrom first .next chars quoted ∧
      Marks name quoted behindName ∧ Blanks behindName (':' :: behindColon) ∧
      Blanks behindColon start ∧ Spells (.value tree) start behind ∧
      MembersFrom false members behind rest := by
  cases first with
  | true =>
      cases spelled with
      | object inside =>
          cases inside with
          | member quote named colon blanks value others =>
              exact ⟨_, _, _, _, _, quote, named, colon, blanks, value, others⟩
  | false =>
      cases spelled with
      | nextMember comma inside =>
          cases inside with
          | member quote named colon blanks value others =>
              exact ⟨_, _, _, _, _, ⟨_, comma, quote⟩, named, colon, blanks, value, others⟩

variable {member : σ → String → Reader σ} {step : σ → String → Tree → Option σ}
  {origin : Source}

-- By the length of the text, of which each turn takes something.
theorem readMembers_sound
    (exact : ∀ state key, ExactBefore Delimited (member state key) (MemberShaped (step state key)))
    {state : σ} {within : (ofChars chars).length ≤ origin.length} {taken : Taken σ origin}
    (read : readMembers member state first (ofChars chars) within = .ok taken) :
    ∃ left members, taken.rest = ofChars left ∧ MembersFrom first members chars left ∧
      addMembers step state members = some taken.value := by
  induction length : chars.length using Nat.strongRecOn generalizing chars state first with
  | ind _ ih =>
      rw [readMembers] at read
      split at read
      · contradiction
      · rename_i turn
        obtain ⟨left, rfl, ended⟩ := (readTurn_exact first).sound turn
        cases read
        exact ⟨left, [], rfl, membersFrom_none (by cases first <;> exact ended), rfl⟩
      · rename_i shorter turn
        obtain ⟨quoted, rfl, next⟩ := (readTurn_exact first).sound turn
        split at read
        · contradiction
        · rename_i shorterKey keyRead
          obtain ⟨behindName, rfl, name, named, means⟩ := readText_exact.sound keyRead
          split at read
          · contradiction
          · rename_i extended _ shorterValue memberRead
            obtain ⟨behind, rfl, _, colon, start, tree, blanks, value, stepped⟩ :=
              (exact _ _).sound memberRead
            have fewer : behind.length < chars.length := by
              simpa using length_lt_trans_both shorter shorterKey shorterValue
            obtain ⟨left, members, rest, others, added⟩ :=
              ih behind.length (length ▸ fewer) read rfl
            refine ⟨left, (name, tree) :: members, rest,
              membersFrom_more next named colon blanks value others, ?_⟩
            simp only [addMembers, means, Option.bind_some, stepped]
            exact added

theorem addMembers_cons {state final : σ}
    (added : addMembers step state ((name, tree) :: members) = some final) :
    ∃ key next, text? name = some key ∧ step state key tree = some next ∧
      addMembers step next members = some final := by
  obtain ⟨key, means, added⟩ := Option.bind_eq_some_iff.mp added
  obtain ⟨next, stepped, added⟩ := Option.bind_eq_some_iff.mp added
  exact ⟨key, next, means, stepped, added⟩

theorem readMembers_complete
    (exact : ∀ state key, ExactBefore Delimited (member state key) (MemberShaped (step state key)))
    {state final : σ} (within : (ofChars chars).length ≤ origin.length)
    (spelled : MembersFrom first members chars rest)
    (added : addMembers step state members = some final) :
    ∃ shorter, readMembers member state first (ofChars chars) within =
      .ok ⟨final, ofChars rest, shorter⟩ := by
  induction members generalizing chars state first with
  | nil =>
      cases added
      obtain ⟨shorter, turn⟩ := readTurn_ended first (membersFrom_nil spelled)
      refine ⟨length_lt_of_lt_of_le shorter within, ?_⟩
      rw [readMembers]
      simp only [turn]
  | cons entry members ih =>
      obtain ⟨name, tree⟩ := entry
      obtain ⟨quoted, behindName, behindColon, start, behind, next, named, colon, blanks, value,
        others⟩ := membersFrom_cons spelled
      obtain ⟨key, extended, means, stepped, added⟩ := addMembers_cons added
      obtain ⟨shorter, turn⟩ := readTurn_next next
      obtain ⟨shorterKey, keyRead⟩ := readText_exact.complete ⟨name, named, means⟩ trivial
      obtain ⟨shorterValue, memberRead⟩ := (exact state key).complete
        ⟨behindColon, colon, start, tree, blanks, value, stepped⟩
        (delimited_of_moreMembers others)
      obtain ⟨fewer, read⟩ := ih
        (length_le_of_lt_of_le (length_lt_trans_both shorter shorterKey shorterValue) within)
        others added
      refine ⟨fewer, ?_⟩
      rw [readMembers]
      simp only [turn, keyRead, memberRead, read]

theorem settle_eq_ok {source : Source} {close : Char} {reading : Reading α source}
    {taken : Taken α source} : reading.settle close = .ok taken ↔ reading = .ok taken := by
  cases reading <;> simp [Reading.settle]

/-- An object is of a shape if what its members add up to amounts to what the shape makes of
them. -/
theorem readObject_exact {state : σ} {finish : σ → Except Cause α} {shape : Tree → Option α}
    (exact : ∀ state key, ExactBefore Delimited (member state key) (MemberShaped (step state key)))
    (amounts : ∀ members value, shape (.object members) = some value ↔
      ∃ final, addMembers step state members = some final ∧ finish final = .ok value) :
    Exact (readObject member state finish) (ShapedBehind '{' shape) where
  sound {chars taken} read := by
    unfold readObject at read
    split at read
    · contradiction
    · rename_i final _ _ settled
      obtain ⟨left, members, rfl, spelled, added⟩ :=
        readMembers_sound exact (settle_eq_ok.mp settled)
      split at read
      · contradiction
      · rename_i finished
        cases read
        exact ⟨left, rfl, .object members, spelled,
          (amounts members _).mpr ⟨final, added, finished⟩⟩
  complete {chars left value} shaped _ := by
    obtain ⟨tree, spelled, means⟩ := shaped
    obtain ⟨members, rfl⟩ := object_of_brace spelled
    obtain ⟨final, added, finished⟩ := (amounts members value).mp means
    obtain ⟨shorter, read⟩ := @readMembers_complete _ true _ _ _ _ _ (ofChars chars) exact _ _
      (length_le_self _) spelled added
    refine ⟨shorter, ?_⟩
    unfold readObject
    rw [read]
    simp only [Reading.settle, finished]

end Members

section Elements

variable {shape : Tree → Option α} {element : Reader α} {origin : Source}
  {chars behind rest : List Char}

/-- The turn of a list behind an element. A comma is followed by something that closes nothing. -/
def CommaTurn : Spelling Turn
  | .ended, chars, rest => Blanks chars (']' :: rest)
  | .next, chars, rest => Blanks chars (',' :: rest) ∧
      ∃ character others, Blanks rest (character :: others) ∧ isWhite character = false ∧
        character ≠ ']'

theorem readComma_exact : Exact readComma CommaTurn where
  sound {chars taken} read := by
    unfold readComma at read
    obtain ⟨character, behind, found, blanks, read⟩ := onFirst_sound read
    split at read
    · rename_i close
      obtain rfl := (isCharacter_scalar _ _).mp close
      cases read
      exact ⟨behind, rfl, blanks⟩
    · split at read
      · rename_i comma
        obtain rfl := (isCharacter_scalar _ _).mp comma
        split at read
        · contradiction
        · rename_i head
          obtain ⟨next, others, rfl, rfl, blanksThen⟩ := blanks_of_skipBlanks head
          split at read
          · contradiction
          · rename_i noClose
            cases read
            refine ⟨behind, rfl, blanks, next, others, blanksThen, ?_, ?_⟩
            · exact black_of_skipBlanks head
            · exact fun close => noClose ((isCharacter_scalar _ _).mpr close)
      · contradiction
  complete {chars left turn} spelled _ := by
    cases turn with
    | ended =>
        have found := skipBlanks_of_blanks spelled rfl
        refine ⟨length_lt_of_skipBlanks found, ?_⟩
        rw [readComma, onFirst_eq found]
        rfl
    | next =>
        obtain ⟨blanks, character, others, blanksThen, black, noClose⟩ := spelled
        have found := skipBlanks_of_blanks blanks rfl
        have head := skipBlanks_of_blanks blanksThen black
        refine ⟨length_lt_of_skipBlanks found, ?_⟩
        rw [readComma, onFirst_eq found]
        simp [isCharacter, head, noClose]

/-- A comma before a value is the turn to the next element. -/
theorem commaTurn_next {tree : Tree} {next start : List Char} (comma : Blanks chars (',' :: next))
    (blanks : Blanks next start) (value : Spells (.value tree) start behind) :
    CommaTurn .next chars next := by
  obtain ⟨character, others, rfl, begins⟩ := head_of_value value
  exact ⟨comma, character, others, blanks, black_of_beginsValue begins,
    ne_of_beginsValue begins rfl⟩

theorem readElements_sound (exact : Exact element (Shaped shape)) {collected : List α}
    {within : (ofChars chars).length ≤ origin.length} {taken : Taken (List α) origin}
    (read : readElements element collected (ofChars chars) within = .ok taken) :
    ∃ left trees values, taken.rest = ofChars left ∧ Spells (.elements trees) chars left ∧
      trees.mapM shape = some values ∧ taken.value = collected.reverse ++ values := by
  induction length : chars.length using Nat.strongRecOn generalizing chars collected with
  | ind _ ih =>
      rw [readElements] at read
      split at read
      · contradiction
      · rename_i value _ shorter elementRead
        obtain ⟨behind, rfl, start, tree, blanks, spelled, means⟩ := exact.sound elementRead
        split at read
        · contradiction
        · rename_i comma
          obtain ⟨left, rfl, ended⟩ := readComma_exact.sound comma
          cases read
          refine ⟨left, [tree], [value], rfl, .element blanks spelled (.noElement ended), ?_, ?_⟩
          · simp [means]
          · simp
        · rename_i shorterLeft comma
          obtain ⟨next, rfl, comma, -⟩ := readComma_exact.sound comma
          have fewer : next.length < chars.length := by
            simpa using length_lt_trans shorter shorterLeft
          obtain ⟨left, trees, values, rest, others, all, collects⟩ :=
            ih next.length (length ▸ fewer) read rfl
          refine ⟨left, tree :: trees, value :: values, rest,
            .element blanks spelled (.nextElement comma others), ?_, ?_⟩
          · simp [means, all]
          · simpa using collects

theorem mapM_cons_eq_some {tree : Tree} {trees : List Tree} {values : List α}
    (all : (tree :: trees).mapM shape = some values) :
    ∃ value others, shape tree = some value ∧ trees.mapM shape = some others ∧
      values = value :: others := by
  rw [List.mapM_cons] at all
  obtain ⟨value, means, all⟩ := Option.bind_eq_some_iff.mp all
  obtain ⟨others, rest, same⟩ := Option.bind_eq_some_iff.mp all
  cases same
  exact ⟨value, others, means, rest, rfl⟩

-- By the elements, one for each turn of the reader.
theorem readElements_complete (exact : Exact element (Shaped shape)) {trees : List Tree}
    {collected values : List α} (within : (ofChars chars).length ≤ origin.length)
    (spelled : Spells (.elements trees) chars rest) (all : trees.mapM shape = some values) :
    ∃ shorter, readElements element collected (ofChars chars) within =
      .ok ⟨collected.reverse ++ values, ofChars rest, shorter⟩ := by
  induction trees generalizing chars collected values with
  | nil => cases spelled
  | cons tree trees ih =>
      obtain ⟨value, others, means, later, rfl⟩ := mapM_cons_eq_some all
      clear all
      cases spelled with
      | @element _ _ _ _ behind _ blanks spelled behindFirst =>
          obtain ⟨shorter, elementRead⟩ :=
            exact.complete ⟨_, tree, blanks, spelled, means⟩ trivial
          cases behindFirst with
          | noElement ended =>
              obtain rfl : [] = others := by simpa using later
              obtain ⟨shorterLeft, comma⟩ := readComma_exact.complete
                (show CommaTurn .ended _ rest from ended) trivial
              refine ⟨length_lt_of_lt_of_le (length_lt_trans shorter shorterLeft) within, ?_⟩
              rw [readElements]
              simp [elementRead, comma]
          | @nextElement _ _ next _ comma inside =>
              have turn : CommaTurn .next behind next := by
                cases inside with
                | element blanks spelled _ => exact commaTurn_next comma blanks spelled
              obtain ⟨shorterLeft, comma⟩ := readComma_exact.complete turn trivial
              obtain ⟨fewer, read⟩ := @ih _ (value :: collected) others
                (length_le_of_lt_of_le (length_lt_trans shorter shorterLeft) within) inside later
              refine ⟨fewer, ?_⟩
              rw [readElements]
              simp [elementRead, comma, read]

theorem readList_exact (exact : Exact element (Shaped shape)) :
    Exact (readList element) (ShapedBehind '[' (shapeList shape)) where
  sound {chars taken} read := by
    unfold readList at read
    obtain ⟨character, behind, found, blanks, read⟩ := onFirst_sound read
    split at read
    · rename_i close
      obtain rfl := (isCharacter_scalar _ _).mp close
      cases read
      exact ⟨behind, rfl, .list [], .emptyList blanks, rfl⟩
    · obtain ⟨left, trees, values, rest, spelled, all, collects⟩ := readElements_sound exact read
      obtain rfl : _ = values := collects
      exact ⟨left, rest, .list trees, .list spelled, all⟩
  complete {chars left values} shaped _ := by
    obtain ⟨tree, spelled, all⟩ := shaped
    obtain ⟨trees, rfl⟩ := list_of_bracket spelled
    cases spelled with
    | emptyList blanks =>
        cases all
        have found := skipBlanks_of_blanks blanks rfl
        refine ⟨length_lt_of_skipBlanks found, ?_⟩
        rw [readList, onFirst_eq found]
        rfl
    | list inside =>
        obtain ⟨fewer, read⟩ := @readElements_complete _ _ _ (ofChars chars) _ _ exact _ [] _
          (length_le_self _) inside all
        obtain ⟨character, others, blanks, black, noClose⟩ :=
          @head_of_inside .list _ _ ⟨trees, inside⟩
        have found := skipBlanks_of_blanks blanks black
        have different : isCharacter ']' (.scalar character) = false := by
          simpa [isCharacter, Bracket.closing] using noClose
        refine ⟨fewer, ?_⟩
        rw [readList, onFirst_eq found]
        simpa [different] using read

end Elements

section FixedLength

variable {shape : Tree → Option α} {element : Reader α} {otherShape : Tree → Option β}
  {other : Reader β} {chars rest : List Char}

theorem readListEnd_exact :
    Exact readListEnd fun _ chars rest => Blanks chars (']' :: rest) where
  sound {chars taken} read := by
    unfold readListEnd at read
    obtain ⟨character, behind, found, blanks, read⟩ := onFirst_sound read
    split at read
    · rename_i close
      obtain rfl := (isCharacter_scalar _ _).mp close
      cases read
      exact ⟨behind, rfl, blanks⟩
    · split at read
      · split at read <;> contradiction
      · contradiction
  complete blanks _ := by
    have found := skipBlanks_of_blanks blanks rfl
    refine ⟨length_lt_of_skipBlanks found, ?_⟩
    rw [readListEnd, onFirst_eq found]
    rfl

theorem readFirst_exact (wanted : Wanted) (exact : Exact element (Shaped shape)) :
    Exact (readFirst wanted element) (Shaped shape) where
  sound read := by
    unfold readFirst at read
    split at read
    · contradiction
    · split at read
      · contradiction
      · exact exact.sound read
  complete {chars left value} shaped _ := by
    obtain ⟨shorter, read⟩ := exact.complete shaped trivial
    obtain ⟨start, tree, blanks, spelled, -⟩ := shaped
    obtain ⟨character, others, rfl, begins⟩ := head_of_value spelled
    have found := skipBlanks_of_blanks blanks (black_of_beginsValue begins)
    have different : isCharacter ']' (.scalar character) = false := by
      simpa [isCharacter] using ne_of_beginsValue begins rfl
    refine ⟨shorter, ?_⟩
    rw [readFirst, found]
    simpa [different] using read

theorem readNext_exact (wanted : Wanted) (count : Nat) (exact : Exact element (Shaped shape)) :
    Exact (readNext wanted count element) fun value chars rest =>
      ∃ behind, Blanks chars (',' :: behind) ∧ Shaped shape value behind rest where
  sound read := by
    unfold readNext at read
    split at read
    · contradiction
    · contradiction
    · rename_i comma
      obtain ⟨behind, rfl, comma, -⟩ := readComma_exact.sound comma
      obtain ⟨_, read⟩ := widen_eq_ok.mp read
      obtain ⟨left, rest, shaped⟩ := exact.sound read
      exact ⟨left, rest, behind, comma, shaped⟩
  complete {chars left value} spelled _ := by
    obtain ⟨behind, comma, shaped⟩ := spelled
    obtain ⟨shorterValue, read⟩ := exact.complete shaped trivial
    obtain ⟨start, tree, blanks, value, -⟩ := shaped
    obtain ⟨shorter, turn⟩ := readComma_exact.complete (commaTurn_next comma blanks value) trivial
    refine ⟨length_lt_trans shorter shorterValue, ?_⟩
    simp only [readNext, turn]
    exact widen_eq_ok.mpr ⟨shorterValue, read⟩

theorem single_of_shapeSingle {whole : Tree} {value : α}
    (means : shapeSingle shape whole = some value) : ∃ tree, whole = .list [tree] := by
  unfold shapeSingle at means
  split at means
  · exact ⟨_, rfl⟩
  · contradiction

theorem readSingle_exact (wanted : Wanted) (exact : Exact element (Shaped shape)) :
    Exact (readSingle wanted element) (ShapedBehind '[' (shapeSingle shape)) where
  sound {chars taken} read := by
    unfold readSingle at read
    split at read
    · contradiction
    · rename_i settled
      obtain ⟨behind, rfl, start, tree, blanks, value, means⟩ :=
        (readFirst_exact wanted exact).sound (settle_eq_ok.mp settled)
      split at read
      · contradiction
      · rename_i listEnd
        obtain ⟨left, rfl, ended⟩ := readListEnd_exact.sound listEnd
        cases read
        exact ⟨left, rfl, .list [tree], .list (.element blanks value (.noElement ended)), means⟩
  complete {chars left value} shaped _ := by
    obtain ⟨whole, spelled, means⟩ := shaped
    obtain ⟨tree, rfl⟩ := single_of_shapeSingle means
    cases spelled with
    | list inside =>
        cases inside with
        | element blanks value others =>
            cases others with
            | noElement ended =>
                obtain ⟨shorter, read⟩ := (readFirst_exact wanted exact).complete
                  ⟨_, tree, blanks, value, means⟩ trivial
                obtain ⟨shorterLeft, close⟩ : ∃ shorter, readListEnd _ =
                  .ok ⟨(), ofChars left, shorter⟩ := readListEnd_exact.complete ended trivial
                refine ⟨length_lt_trans shorter shorterLeft, ?_⟩
                simp only [readSingle, read, Reading.settle, close]
            | nextElement _ others => cases others

theorem pair_of_shapePair {whole : Tree} {value : α × β}
    (means : shapePair shape otherShape whole = some value) :
    ∃ tree otherTree, whole = .list [tree, otherTree] ∧ shape tree = some value.1 ∧
      otherShape otherTree = some value.2 := by
  unfold shapePair at means
  split at means
  · rename_i tree otherTree
    obtain ⟨left, leftMeans, means⟩ := Option.bind_eq_some_iff.mp means
    obtain ⟨right, rightMeans, means⟩ := Option.bind_eq_some_iff.mp means
    cases means
    exact ⟨tree, otherTree, rfl, leftMeans, rightMeans⟩
  · contradiction

theorem readPair_exact (wanted : Wanted) (exact : Exact element (Shaped shape))
    (exactOther : Exact other (Shaped otherShape)) :
    Exact (readPair wanted element other) (ShapedBehind '[' (shapePair shape otherShape)) where
  sound {chars taken} read := by
    unfold readPair at read
    split at read
    · contradiction
    · rename_i firstRead
      obtain ⟨behind, rfl, start, tree, blanks, value, means⟩ :=
        (readFirst_exact wanted exact).sound firstRead
      split at read
      · contradiction
      · rename_i nextRead
        obtain ⟨final, rfl, next, comma, otherStart, otherTree, otherBlanks, otherValue,
          otherMeans⟩ := (readNext_exact wanted 1 exactOther).sound nextRead
        split at read
        · contradiction
        · rename_i listEnd
          obtain ⟨left, rfl, ended⟩ := readListEnd_exact.sound listEnd
          cases read
          have others := Spells.element otherBlanks otherValue (.noElement ended)
          exact ⟨left, rfl, .list [tree, otherTree],
            .list (.element blanks value (.nextElement comma others)),
            by simp [shapePair, means, otherMeans]⟩
  complete {chars left values} shaped _ := by
    obtain ⟨whole, spelled, all⟩ := shaped
    obtain ⟨tree, otherTree, rfl, means, otherMeans⟩ := pair_of_shapePair all
    cases spelled with
    | list inside =>
        cases inside with
        | element blanks value others =>
            cases others with
            | nextElement comma others =>
                cases others with
                | element otherBlanks otherValue others =>
                    cases others with
                    | noElement ended =>
                        obtain ⟨shorter, read⟩ := (readFirst_exact wanted exact).complete
                          ⟨_, tree, blanks, value, means⟩ trivial
                        obtain ⟨shorterOther, next⟩ :=
                          (readNext_exact wanted 1 exactOther).complete
                            ⟨_, comma, _, otherTree, otherBlanks, otherValue, otherMeans⟩ trivial
                        obtain ⟨shorterLeft, close⟩ : ∃ shorter, readListEnd _ =
                          .ok ⟨(), ofChars left, shorter⟩ :=
                          readListEnd_exact.complete ended trivial
                        refine ⟨length_lt_trans_both shorter shorterOther shorterLeft, ?_⟩
                        simp only [readPair, read, next, close]
                    | nextElement _ others => cases others

end FixedLength

end CircuitDiagram.Json
