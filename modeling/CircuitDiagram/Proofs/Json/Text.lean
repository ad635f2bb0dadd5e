import CircuitDiagram.Proofs.Json.Exact

/-!
Strings. Reading one decodes its escapes as it goes; the grammar collects marks, and says what
they mean afterwards. `Decoded` stands between the two: the characters of a string with what
each of them is spelled by.
-/

namespace CircuitDiagram.Json

theorem shortEscape_iff (letter character : Char) :
    ShortEscape letter character ↔ shortEscape? letter = some character := by
  constructor
  · intro escape
    cases escape <;> rfl
  · intro escape
    unfold shortEscape? at escape
    split at escape <;> cases escape <;> constructor

theorem readHex_exact : Exact readHex FourDigits where
  sound {chars taken} read := by
    match chars, taken with
    | first :: second :: third :: fourth :: left, taken =>
        simp only [ofChars_cons, readHex] at read
        split at read
        · rename_i number value
          cases read
          exact ⟨left, rfl, .mk left value⟩
        · contradiction
    | [], _ => simp [readHex] at read
    | [_], _ => simp [readHex] at read
    | [_, _], _ => simp [readHex] at read
    | [_, _, _], _ => simp [readHex] at read
  complete spelled _ := by
    cases spelled with
    | @mk first second third fourth _ _ value =>
        refine ⟨length_lt_cons_fourth _, ?_⟩
        simp only [ofChars_cons, readHex, value]

/-- One character of a string by an escape, from behind the backslash. -/
inductive Escaped : Spelling Char where
  | short {letter character : Char} {rest : List Char} (escape : ShortEscape letter character) :
      Escaped character (letter :: rest) rest
  | unit {number : Nat} {chars rest : List Char} (spelled : FourDigits number chars rest)
      (noLow : isLowSurrogate number = false) (noHigh : isHighSurrogate number = false) :
      Escaped (Char.ofNat number) ('u' :: chars) rest
  | pair {high low : Nat} {chars others rest : List Char}
      (first : FourDigits high chars ('\\' :: 'u' :: others))
      (second : FourDigits low others rest) (noLow : isLowSurrogate high = false)
      (isHigh : isHighSurrogate high = true) (isLow : isLowSurrogate low = true) :
      Escaped (joined high low) ('u' :: chars) rest

/-- The characters of a string from behind its opening quote, with the closing one. -/
inductive Decoded : Spelling (List Char) where
  | none (rest : List Char) : Decoded [] ('"' :: rest) rest
  | plain {character : Char} {content chars rest : List Char}
      (noQuote : character ≠ '"') (noBackslash : character ≠ '\\')
      (printed : 0x20 ≤ character.toNat) (others : Decoded content chars rest) :
      Decoded (character :: content) (character :: chars) rest
  | escaped {character : Char} {content chars behind rest : List Char}
      (escape : Escaped character chars behind) (others : Decoded content behind rest) :
      Decoded (character :: content) ('\\' :: chars) rest

section Meaning

theorem content_unit {number : Nat} (noLow : isLowSurrogate number = false)
    (noHigh : isHighSurrogate number = false) (marks : List Mark) :
    content? (.unit number :: marks) = (content? marks).map (Char.ofNat number :: ·) := by
  rw [content?.eq_def]
  simp [noLow, noHigh]

theorem content_pair {high low : Nat} (noLow : isLowSurrogate high = false)
    (isHigh : isHighSurrogate high = true) (isLow : isLowSurrogate low = true)
    (marks : List Mark) :
    content? (.unit high :: .unit low :: marks) =
      (content? marks).map (joined high low :: ·) := by
  rw [content?]
  simp [noLow, isHigh, isLow]

-- A pair is one character of two marks; every other escape has a mark of its own.
theorem marks_of_decoded {content chars rest : List Char} (decoded : Decoded content chars rest) :
    ∃ marks, Marks marks chars rest ∧ content? marks = some content := by
  induction decoded with
  | none rest => exact ⟨[], .none rest, rfl⟩
  | @plain character _ _ _ noQuote noBackslash printed _ ih =>
      obtain ⟨marks, spelled, means⟩ := ih
      exact ⟨.character character :: marks, .plain noQuote noBackslash printed spelled,
        by simp [content?, means]⟩
  | escaped escape _ ih =>
      obtain ⟨marks, spelled, means⟩ := ih
      cases escape with
      | short escape =>
          exact ⟨.character _ :: marks, .short escape spelled, by simp [content?, means]⟩
      | unit digits noLow noHigh =>
          exact ⟨.unit _ :: marks, .unit digits spelled,
            by rw [content_unit noLow noHigh, means]; rfl⟩
      | pair first second noLow isHigh isLow =>
          exact ⟨.unit _ :: .unit _ :: marks, .unit first (.unit second spelled),
            by rw [content_pair noLow isHigh isLow, means]; rfl⟩

/-- The marks of a string are decoded from the front; a pair takes two of them, so the induction
is on their number. -/
theorem decoded_of_marks (marks : List Mark) {content chars rest : List Char}
    (spelled : Marks marks chars rest) (means : content? marks = some content) :
    Decoded content chars rest := by
  induction marks using content?.induct generalizing content chars with
  | case1 =>
      cases means
      cases spelled
      exact .none _
  | case2 character marks ih =>
      simp only [content?, Option.map_eq_some_iff] at means
      obtain ⟨others, means, rfl⟩ := means
      cases spelled with
      | plain noQuote noBackslash printed spelled =>
          exact .plain noQuote noBackslash printed (ih spelled means)
      | short escape spelled => exact .escaped (.short escape) (ih spelled means)
  | case3 number marks isLow =>
      rw [content?.eq_def] at means
      -- A lower half with no upper half before it says nothing.
      simp [isLow] at means
  | case4 number noLow isHigh low marks isLow ih =>
      simp only [Bool.not_eq_true] at noLow
      rw [content_pair noLow isHigh isLow, Option.map_eq_some_iff] at means
      obtain ⟨others, means, rfl⟩ := means
      cases spelled with
      | unit first spelled =>
          cases spelled with
          | unit second spelled =>
              exact .escaped (.pair first second noLow isHigh isLow) (ih spelled means)
  | case5 number noLow isHigh low marks notLow => simp [content?, noLow, isHigh, notLow] at means
  | case6 number marks noLow isHigh noPair =>
      rw [content?.eq_def] at means
      simp [noLow, isHigh] at means
  | case7 number marks noLow noHigh ih =>
      simp only [Bool.not_eq_true] at noLow noHigh
      rw [content_unit noLow noHigh, Option.map_eq_some_iff] at means
      obtain ⟨others, means, rfl⟩ := means
      cases spelled with
      | unit digits spelled => exact .escaped (.unit digits noLow noHigh) (ih spelled means)

end Meaning

section Reading

/-- The bounds of the halves are multiples of 1024, so what is above them is what they leave
when divided by it. -/
theorem characterOfPair_eq_joined {high low : Nat} (isHigh : isHighSurrogate high = true)
    (isLow : isLowSurrogate low = true) : characterOfPair high low = joined high low := by
  simp only [isHighSurrogate, isLowSurrogate, decide_eq_true_eq] at isHigh isLow
  -- `rw` would evaluate the subtractions from these bounds one by one.
  delta characterOfPair joined
  apply congrArg Char.ofNat
  omega

/-- The second half of a pair, as it follows the first. -/
inductive LowHalf (high : Nat) : Spelling Char where
  | mk {low : Nat} {chars rest : List Char} (spelled : FourDigits low chars rest)
      (isLow : isLowSurrogate low = true) :
      LowHalf high (characterOfPair high low) ('\\' :: 'u' :: chars) rest

theorem readLowSurrogate_exact (high : Nat) : Exact (readLowSurrogate high) (LowHalf high) where
  sound {chars taken} read := by
    match chars with
    | [] => simp [readLowSurrogate] at read
    | [slash] =>
        simp only [ofChars_cons, ofChars_nil, readLowSurrogate] at read
        split at read <;> contradiction
    | slash :: letter :: chars =>
        simp only [ofChars_cons, readLowSurrogate] at read
        split at read
        · contradiction
        · split at read
          · contradiction
          · rename_i isSlash isLetter
            simp only [isCharacter, Bool.not_eq_true', Bool.not_eq_false, beq_iff_eq]
              at isSlash isLetter
            subst isSlash isLetter
            split at read
            · contradiction
            · rename_i low rest shorter digits
              split at read
              · rename_i isLow
                cases read
                obtain ⟨left, rfl, spelled⟩ := readHex_exact.sound digits
                exact ⟨left, rfl, .mk spelled isLow⟩
              · contradiction
  complete spelled _ := by
    cases spelled with
    | mk digits isLow =>
        obtain ⟨shorter, read⟩ := readHex_exact.complete digits trivial
        refine ⟨length_lt_cons_of_lt (length_lt_cons_of_lt shorter), ?_⟩
        simp [readLowSurrogate, isCharacter, read, isLow]

/-- An escape by code unit, from behind its letter. -/
theorem readCodeUnit_exact :
    Exact readCodeUnit fun character chars rest => Escaped character ('u' :: chars) rest where
  sound {chars taken} read := by
    unfold readCodeUnit at read
    split at read
    · contradiction
    · rename_i number rest shorter digits
      obtain ⟨behind, rfl, spelled⟩ := readHex_exact.sound digits
      split at read
      · contradiction
      · rename_i noLow
        split at read
        · rename_i isHigh
          obtain ⟨_, second⟩ := widen_eq_ok.mp read
          obtain ⟨left, same, half⟩ := (readLowSurrogate_exact number).sound second
          obtain ⟨value, rest, _⟩ := taken
          cases half with
          | mk low isLow =>
              refine ⟨left, same, ?_⟩
              rw [characterOfPair_eq_joined isHigh isLow]
              exact .pair spelled low (Bool.not_eq_true _ ▸ noLow) isHigh isLow
        · rename_i noHigh
          cases read
          exact ⟨behind, rfl,
            .unit spelled (Bool.not_eq_true _ ▸ noLow) (Bool.not_eq_true _ ▸ noHigh)⟩
  complete {chars left value} spelled _ := by
    cases spelled with
    | short escape => cases escape
    | unit digits noLow noHigh =>
        obtain ⟨shorter, read⟩ := readHex_exact.complete digits trivial
        refine ⟨shorter, ?_⟩
        simp [readCodeUnit, read, noLow, noHigh]
    | pair first second noLow isHigh isLow =>
        obtain ⟨shorter, read⟩ := readHex_exact.complete first trivial
        obtain ⟨shorterHalf, half⟩ :=
          (readLowSurrogate_exact _).complete (.mk second isLow) trivial
        refine ⟨length_lt_trans shorter shorterHalf, ?_⟩
        rw [← characterOfPair_eq_joined isHigh isLow]
        simp only [readCodeUnit, read, noLow, isHigh, Bool.false_eq_true, ↓reduceIte]
        exact widen_eq_ok.mpr ⟨shorterHalf, half⟩

theorem readEscape_exact : Exact readEscape Escaped where
  sound {chars taken} read := by
    match chars with
    | [] => simp [readEscape] at read
    | letter :: chars =>
        simp only [ofChars_cons, readEscape] at read
        split at read
        · rename_i isUnit
          subst isUnit
          obtain ⟨_, unit⟩ := widen_eq_ok.mp read
          exact readCodeUnit_exact.sound unit
        · split at read
          · rename_i character escape
            cases read
            exact ⟨chars, rfl, .short ((shortEscape_iff _ _).mpr escape)⟩
          · contradiction
  complete {chars left value} spelled _ := by
    have unit {digits : List Char} (spelled : Escaped value ('u' :: digits) left) :
        ∃ shorter, readEscape (ofChars ('u' :: digits)) = .ok ⟨value, ofChars left, shorter⟩ := by
      obtain ⟨shorter, read⟩ := readCodeUnit_exact.complete spelled trivial
      refine ⟨length_lt_cons_of_lt shorter, ?_⟩
      simp only [ofChars_cons, readEscape, ↓reduceIte]
      exact widen_eq_ok.mpr ⟨shorter, read⟩
    cases spelled with
    | short escape =>
        refine ⟨length_lt_cons _ _, ?_⟩
        cases escape <;> rfl
    | unit digits noLow noHigh => exact unit (.unit digits noLow noHigh)
    | pair first second noLow isHigh isLow =>
        exact unit (.pair first second noLow isHigh isLow)

/-- The escapes are read as a whole, so the induction is on the length of what is left. -/
theorem readCharacters_sound {start : Source} {collected chars : List Char}
    {within : (ofChars chars).length ≤ start.length} {taken : Taken String start}
    (read : readCharacters collected none (ofChars chars) within = .ok taken) :
    ∃ content left, Decoded content chars left ∧ taken.rest = ofChars left ∧
      taken.value = String.ofList (collected.reverse ++ content) := by
  induction size : chars.length using Nat.strongRecOn generalizing chars collected with
  | ind count ih =>
    match chars with
    | [] => simp [readCharacters] at read
    | character :: chars =>
        simp only [ofChars_cons] at read
        rw [readCharacters] at read
        split at read
        · rename_i isQuote
          subst isQuote
          cases read
          exact ⟨[], chars, .none chars, rfl, by simp⟩
        · rename_i noQuote
          split at read
          · rename_i isBackslash
            subst isBackslash
            split at read
            · contradiction
            · rename_i decoded rest shorter escape
              obtain ⟨behind, rfl, escaped⟩ := readEscape_exact.sound escape
              have fewer : behind.length < count := by
                have passed : behind.length < chars.length := by simpa using shorter
                rw [← size, List.length_cons]
                exact Nat.lt_succ_of_lt passed
              obtain ⟨content, left, others, rest, value⟩ := ih _ fewer read rfl
              exact ⟨decoded :: content, left, .escaped escaped others, rest, by simpa using value⟩
          · rename_i noBackslash
            split at read
            · contradiction
            · rename_i noControl
              have printed : 0x20 ≤ character.toNat := by simpa [isControl] using noControl
              have fewer : chars.length < count := by simp [← size]
              obtain ⟨content, left, others, rest, value⟩ := ih _ fewer read rfl
              exact ⟨character :: content, left, .plain noQuote noBackslash printed others, rest,
                by simpa using value⟩

theorem readCharacters_complete {start : Source} {content chars left : List Char}
    (decoded : Decoded content chars left) (collected : List Char)
    (within : (ofChars chars).length ≤ start.length) :
    ∃ shorter, readCharacters collected none (ofChars chars) within =
      .ok ⟨String.ofList (collected.reverse ++ content), ofChars left, shorter⟩ := by
  induction decoded generalizing collected with
  | none rest =>
      refine ⟨within, ?_⟩
      simp only [ofChars_cons]
      rw [readCharacters]
      simp
  | @plain character content chars rest noQuote noBackslash printed _ ih =>
      obtain ⟨shorter, read⟩ := ih (character :: collected) (length_le_of_cons_le within)
      refine ⟨shorter, ?_⟩
      have noControl : isControl character = false := by simpa [isControl] using printed
      simp only [ofChars_cons]
      rw [readCharacters]
      simpa [noQuote, noBackslash, noControl] using read
  | @escaped character content chars behind rest escape _ ih =>
      obtain ⟨passed, first⟩ := readEscape_exact.complete escape trivial
      obtain ⟨shorter, read⟩ := ih (character :: collected)
        (length_le_of_cons_le_of_lt within passed)
      refine ⟨shorter, ?_⟩
      simp only [ofChars_cons]
      rw [readCharacters]
      simpa [first] using read

theorem readText_exact :
    Exact readText fun text chars rest =>
      ∃ marks, Marks marks chars rest ∧ text? marks = some text where
  sound {chars taken} read := by
    obtain ⟨content, left, decoded, rest, value⟩ := readCharacters_sound read
    obtain ⟨marks, spelled, means⟩ := marks_of_decoded decoded
    refine ⟨left, rest, marks, spelled, ?_⟩
    simpa [text?, means] using value.symm
  complete {chars left text} spelled _ := by
    obtain ⟨marks, spelled, means⟩ := spelled
    obtain ⟨content, decodes, rfl⟩ := Option.map_eq_some_iff.mp means
    exact readCharacters_complete (decoded_of_marks marks spelled decodes) []
      (length_le_self (ofChars chars))

end Reading

section Skipping

/-- The rest of an escape; whether its code unit is one of a pair does not count. -/
inductive EscapePassed : Spelling Unit where
  | short {letter character : Char} {rest : List Char} (escape : ShortEscape letter character) :
      EscapePassed () (letter :: rest) rest
  | unit {number : Nat} {chars rest : List Char} (spelled : FourDigits number chars rest) :
      EscapePassed () ('u' :: chars) rest

theorem skipEscape_exact : Exact skipEscape EscapePassed where
  sound {chars taken} read := by
    match chars with
    | [] => simp [skipEscape] at read
    | letter :: chars =>
        simp only [ofChars_cons, skipEscape] at read
        split at read
        · rename_i isUnit
          subst isUnit
          split at read
          · contradiction
          · rename_i number rest shorter digits
            cases read
            obtain ⟨left, rfl, spelled⟩ := readHex_exact.sound digits
            exact ⟨left, rfl, .unit spelled⟩
        · split at read
          · rename_i known
            obtain ⟨character, escape⟩ := Option.isSome_iff_exists.mp known
            cases read
            exact ⟨chars, rfl, .short ((shortEscape_iff _ _).mpr escape)⟩
          · contradiction
  complete spelled _ := by
    cases spelled with
    | short escape =>
        refine ⟨length_lt_cons _ _, ?_⟩
        cases escape <;> rfl
    | unit digits =>
        obtain ⟨shorter, read⟩ := readHex_exact.complete digits trivial
        refine ⟨length_lt_cons_of_lt shorter, ?_⟩
        simp [skipEscape, read]

theorem marks_of_escapePassed {chars behind rest : List Char} {marks : List Mark}
    (escape : EscapePassed () chars behind) (others : Marks marks behind rest) :
    ∃ mark, Marks (mark :: marks) ('\\' :: chars) rest := by
  cases escape with
  | short escape => exact ⟨_, .short escape others⟩
  | unit digits => exact ⟨_, .unit digits others⟩

theorem skipCharacters_sound {start : Source} {chars : List Char}
    {within : (ofChars chars).length ≤ start.length} {taken : Taken Unit start}
    (read : skipCharacters (ofChars chars) within = .ok taken) :
    ∃ marks left, Marks marks chars left ∧ taken.rest = ofChars left := by
  induction size : chars.length using Nat.strongRecOn generalizing chars with
  | ind count ih =>
    match chars with
    | [] => simp [skipCharacters] at read
    | character :: chars =>
        simp only [ofChars_cons] at read
        rw [skipCharacters] at read
        split at read
        · rename_i isQuote
          subst isQuote
          cases read
          exact ⟨[], chars, .none chars, rfl⟩
        · rename_i noQuote
          split at read
          · rename_i isBackslash
            subst isBackslash
            split at read
            · contradiction
            · rename_i decoded rest shorter escape
              obtain ⟨behind, rfl, passed⟩ := skipEscape_exact.sound escape
              have fewer : behind.length < count := by
                have passed : behind.length < chars.length := by simpa using shorter
                rw [← size, List.length_cons]
                exact Nat.lt_succ_of_lt passed
              obtain ⟨marks, left, others, rest⟩ := ih _ fewer read rfl
              obtain ⟨mark, spelled⟩ := marks_of_escapePassed passed others
              exact ⟨mark :: marks, left, spelled, rest⟩
          · rename_i noBackslash
            split at read
            · contradiction
            · rename_i noControl
              have printed : 0x20 ≤ character.toNat := by simpa [isControl] using noControl
              have fewer : chars.length < count := by simp [← size]
              obtain ⟨marks, left, others, rest⟩ := ih _ fewer read rfl
              exact ⟨.character character :: marks, left,
                .plain noQuote noBackslash printed others, rest⟩

theorem skipCharacters_complete {start : Source} {marks : List Mark} {chars left : List Char}
    (spelled : Marks marks chars left) (within : (ofChars chars).length ≤ start.length) :
    ∃ shorter, skipCharacters (ofChars chars) within = .ok ⟨(), ofChars left, shorter⟩ := by
  have behindEscape {chars behind left : List Char} (escape : EscapePassed () chars behind)
      (within : (ofChars ('\\' :: chars)).length ≤ start.length)
      (others : ∀ within : (ofChars behind).length ≤ start.length,
        ∃ shorter, skipCharacters (ofChars behind) within = .ok ⟨(), ofChars left, shorter⟩) :
      ∃ shorter, skipCharacters (ofChars ('\\' :: chars)) within =
        .ok ⟨(), ofChars left, shorter⟩ := by
    obtain ⟨passed, first⟩ := skipEscape_exact.complete escape trivial
    obtain ⟨shorter, read⟩ := others (length_le_of_cons_le_of_lt within passed)
    refine ⟨shorter, ?_⟩
    simp only [ofChars_cons]
    rw [skipCharacters]
    simpa [first] using read
  induction spelled with
  | none rest =>
      refine ⟨within, ?_⟩
      simp only [ofChars_cons]
      rw [skipCharacters]
      simp
  | @plain character _ chars rest noQuote noBackslash printed _ ih =>
      obtain ⟨shorter, read⟩ := ih (length_le_of_cons_le within)
      refine ⟨shorter, ?_⟩
      have noControl : isControl character = false := by simpa [isControl] using printed
      simp only [ofChars_cons]
      rw [skipCharacters]
      simpa [noQuote, noBackslash, noControl] using read
  | short escape _ ih => exact behindEscape (.short escape) within ih
  | unit digits _ ih => exact behindEscape (.unit digits) within ih

theorem skipText_exact :
    Exact skipText fun _ chars rest => ∃ marks, Marks marks chars rest where
  sound read := by
    obtain ⟨marks, left, spelled, rest⟩ := skipCharacters_sound read
    exact ⟨left, rest, marks, spelled⟩
  complete {chars _ _} spelled _ :=
    spelled.elim fun _ marks => skipCharacters_complete marks (length_le_self (ofChars chars))

end Skipping

end CircuitDiagram.Json
