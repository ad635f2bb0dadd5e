import CircuitDiagram.Proofs.Json.Length

/-!
Numbers. Each part of a number is read as far as it goes, so a reading is complete only where the
part cannot go on; the parts that may follow it begin with characters of their own, and what is
behind the number must not begin with any of them.
-/

namespace CircuitDiagram.Json

theorem Stops.mono {fewer more : Char → Bool} {chars : List Char} (stops : Stops more chars)
    (weaker : ∀ character, more character = false → fewer character = false) :
    Stops fewer chars := by
  cases chars with
  | nil => trivial
  | cons character _ => exact weaker character stops

theorem digit_scalar (character : Char) :
    digit? (.scalar character) =
      if character.isDigit = true then some (character.toNat - '0'.toNat) else none := by
  have same : ('0' ≤ character ∧ character ≤ '9') ↔ character.isDigit = true := by
    simp [Char.isDigit, Char.le_def]
  simp only [digit?, same]

section Digits

theorem spanDigits_sound (chars : List Char) :
    ∃ left, (spanDigits (ofChars chars)).2 = ofChars left ∧
      Digits (spanDigits (ofChars chars)).1 chars left := by
  induction chars with
  | nil => exact ⟨[], rfl, .none []⟩
  | cons character chars ih =>
      obtain ⟨left, rest, digits⟩ := ih
      simp only [ofChars_cons, spanDigits, digit_scalar]
      by_cases digit : character.isDigit = true
      · simp only [digit, ↓reduceIte]
        exact ⟨left, rest, .more digit digits⟩
      · simp only [digit]
        exact ⟨character :: chars, rfl, .none _⟩

theorem spanDigits_complete {digits : List Nat} {chars left : List Char}
    (spelled : Digits digits chars left) (stops : Stops Char.isDigit left) :
    spanDigits (ofChars chars) = (digits, ofChars left) := by
  induction spelled with
  | none rest =>
      cases rest with
      | nil => rfl
      | cons character rest =>
          have noDigit : character.isDigit = false := stops
          simp [spanDigits, digit_scalar, noDigit]
  | more digit _ ih => simp [spanDigits, digit_scalar, digit, ih stops]

/-- At least one digit. -/
inductive SomeDigits : Spelling (List Nat) where
  | mk {digit : Nat} {digits : List Nat} {chars rest : List Char}
      (spelled : Digits (digit :: digits) chars rest) : SomeDigits (digit :: digits) chars rest

theorem readDigits_exact (atEnd : Cause) :
    ExactBefore (Stops Char.isDigit) (readDigits atEnd) SomeDigits where
  sound {chars taken} read := by
    obtain ⟨left, rest, spelled⟩ := spanDigits_sound chars
    unfold readDigits at read
    split at read
    · contradiction
    · rename_i digit digits behind found
      cases read
      rw [found] at rest spelled
      exact ⟨left, rest, .mk spelled⟩
  complete {chars left digits} spelled stops := by
    cases spelled with
    | mk spelled =>
        have found := spanDigits_complete spelled stops
        unfold readDigits
        split
        · rename_i none
          rw [found] at none
          cases none
        · rename_i same
          cases found.symm.trans same
          exact ⟨length_lt_of_spanDigits found, rfl⟩

theorem eq_zero_of_isDigit {character : Char} (isDigit : character.isDigit = true)
    (zero : character.toNat - '0'.toNat = 0) : character = '0' := by
  simp only [Char.isDigit, ge_iff_le, Bool.and_eq_true, decide_eq_true_eq] at isDigit
  have least : '0'.toNat ≤ character.toNat := isDigit.1
  exact Char.toNat_inj.mp (Nat.le_antisymm (Nat.le_of_sub_eq_zero zero) least)

end Digits

-- A zero before another digit is refused only after the digits are read as far as they go.
theorem readWhole_exact (atEnd : Cause) :
    ExactBefore (Stops Char.isDigit) (readWhole atEnd) Whole where
  sound {chars taken} read := by
    unfold readWhole at read
    split at read
    · contradiction
    · rename_i noZero
      obtain ⟨left, rest, spelled⟩ := (readDigits_exact atEnd).sound read
      refine ⟨left, rest, ?_⟩
      obtain ⟨value, behind, shorter⟩ := taken
      cases spelled with
      | @mk digit digits _ _ spelled =>
          by_cases zero : digit = 0
          · subst zero
            cases digits with
            | cons second others => exact absurd read (noZero _ _ _ _)
            | nil =>
                obtain ⟨character, others, rfl, isDigit, value, none⟩ := head_of_digits spelled
                obtain rfl := eq_zero_of_isDigit isDigit value.symm
                cases none
                exact .zero left
          · exact .digits zero spelled
  complete {chars left digits} spelled stops := by
    have digits : SomeDigits digits chars left := by
      cases spelled with
      | zero => exact .mk (@Digits.more '0' _ _ _ (by decide) (.none left))
      | digits _ spelled => exact .mk spelled
    obtain ⟨shorter, read⟩ := (readDigits_exact atEnd).complete digits stops
    refine ⟨shorter, ?_⟩
    unfold readWhole
    rw [read]
    cases spelled with
    | zero => rfl
    | @digits digit _ _ _ positive spelled =>
        split
        · rename_i same
          cases same
          contradiction
        · rfl

section Exponents

theorem exponentSign_sound (chars : List Char) :
    ∃ behind, (exponentSign (ofChars chars)).2 = ofChars behind ∧
      Sign (exponentSign (ofChars chars)).1 chars behind := by
  match chars with
  | [] => exact ⟨[], rfl, .none []⟩
  | character :: chars =>
      by_cases plus : character = '+'
      · subst plus
        exact ⟨chars, rfl, .plus chars⟩
      · by_cases minus : character = '-'
        · subst minus
          exact ⟨chars, rfl, .minus chars⟩
        · have unsigned : exponentSign (ofChars (character :: chars)) =
              (false, ofChars (character :: chars)) := by
            simp only [ofChars_cons, exponentSign]
            split
            · rename_i same
              cases same
              contradiction
            · rename_i same
              cases same
              contradiction
            · rfl
          rw [unsigned]
          exact ⟨_, rfl, .none _⟩

theorem exponentSign_complete {negative : Bool} {digit : Nat} {digits : List Nat}
    {chars behind rest : List Char} (sign : Sign negative chars behind)
    (spelled : Digits (digit :: digits) behind rest) :
    exponentSign (ofChars chars) = (negative, ofChars behind) := by
  cases sign with
  | plus => rfl
  | minus => rfl
  | none =>
      obtain ⟨character, others, rfl, isDigit, -⟩ := head_of_digits spelled
      simp only [ofChars_cons, exponentSign]
      split
      · rename_i same
        cases same
        contradiction
      · rename_i same
        cases same
        contradiction
      · rfl

theorem startsExponent_scalar (character : Char) :
    startsExponent (.scalar character) = true ↔ character = 'e' ∨ character = 'E' := by
  simp [startsExponent, isCharacter]

theorem readExponent_sound {start : Source} {atEnd : Cause} {numeral : Numeral}
    {chars : List Char} {shorter : (ofChars chars).length < start.length}
    {taken : Taken Numeral start} (none : numeral.exponent = none)
    (read : readExponent atEnd numeral (ofChars chars) shorter = .ok taken) :
    ∃ exponent left, Exponent exponent chars left ∧ taken.rest = ofChars left ∧
      taken.value = { numeral with exponent } := by
  have kept : numeral = { numeral with exponent := Option.none } := by rw [← none]
  match chars with
  | [] =>
      cases read
      exact ⟨_, [], .none [], rfl, kept⟩
  | letter :: chars =>
      simp only [ofChars_cons, readExponent] at read
      split at read
      · rename_i marked
        obtain ⟨behind, signed, sign⟩ := exponentSign_sound chars
        split at read
        · contradiction
        · rename_i digits rest within found
          cases read
          obtain ⟨left, same, spelled⟩ := (readDigits_exact atEnd).sound_at signed found
          cases spelled with
          | mk spelled =>
              exact ⟨_, left, .digits ((startsExponent_scalar letter).mp marked) sign spelled,
                same, rfl⟩
      · cases read
        exact ⟨_, _, .none _, rfl, kept⟩

theorem readExponent_complete {start : Source} {numeral : Numeral}
    {exponent : Option (Bool × List Nat)} {chars left : List Char}
    (spelled : Exponent exponent chars left) (delimited : Delimited left) (atEnd : Cause)
    (none : numeral.exponent = none) (shorter : (ofChars chars).length < start.length) :
    ∃ fewer, readExponent atEnd numeral (ofChars chars) shorter =
      .ok ⟨{ numeral with exponent }, ofChars left, fewer⟩ := by
  have kept : { numeral with exponent := Option.none } = numeral := by rw [← none]
  cases spelled with
  | none =>
      rw [kept]
      refine ⟨shorter, ?_⟩
      match chars with
      | [] => rfl
      | character :: chars =>
          have other : startsExponent (.scalar character) = false := by
            simp only [Stops, extendsNumber, Bool.or_eq_false_iff, beq_eq_false_iff_ne] at delimited
            simp [startsExponent, isCharacter, delimited]
          simp [readExponent, other]
  | digits marked sign spelled =>
      have stops : Stops Char.isDigit left := delimited.mono fun character extends_ => by
        simp only [extendsNumber, Bool.or_eq_false_iff] at extends_
        exact extends_.1.1.1
      have signed := exponentSign_complete sign spelled
      have starts := (startsExponent_scalar _).mpr marked
      obtain ⟨within, read⟩ := (readDigits_exact atEnd).complete_at
        (congrArg Prod.snd signed) (.mk spelled) stops
      refine ⟨length_lt_of_exponent shorter within, ?_⟩
      simp only [ofChars_cons, readExponent, starts, ↓reduceIte, read]
      rw [congrArg Prod.fst signed]

end Exponents

section Parts

variable {whole : List Nat} {fraction : Option (List Nat)} {exponent : Option (Bool × List Nat)}
  {chars behind left : List Char}

def extendsDigits (character : Char) : Bool :=
  character.isDigit || character == '.'

theorem stops_of_exponent (spelled : Exponent exponent chars left) (delimited : Delimited left) :
    Stops extendsDigits chars := by
  cases spelled with
  | none =>
      apply delimited.mono
      intro character extends_
      simp only [extendsNumber, Bool.or_eq_false_iff] at extends_
      simp [extendsDigits, extends_]
  | digits marked => rcases marked with rfl | rfl <;> rfl

theorem stops_of_fraction (spelled : Fraction fraction chars behind)
    (stops : Stops extendsDigits behind) : Stops Char.isDigit chars := by
  cases spelled with
  | none =>
      apply stops.mono
      intro character extends_
      simp only [extendsDigits, Bool.or_eq_false_iff] at extends_
      exact extends_.1
  | digits => rfl

theorem readFraction_sound {start : Source} {atEnd : Cause} {numeral : Numeral}
    {shorter : (ofChars chars).length < start.length} {taken : Taken Numeral start}
    (noFraction : numeral.fraction = none) (noExponent : numeral.exponent = none)
    (read : readFraction atEnd numeral (ofChars chars) shorter = .ok taken) :
    ∃ fraction behind exponent left, Fraction fraction chars behind ∧
      Exponent exponent behind left ∧ taken.rest = ofChars left ∧
      taken.value = { numeral with fraction, exponent } := by
  have kept : numeral = { numeral with fraction := none } := by rw [← noFraction]
  match chars with
  | [] =>
      cases read
      refine ⟨none, [], none, [], .none [], .none [], rfl, ?_⟩
      rw [← noFraction, ← noExponent]
  | character :: chars =>
      simp only [ofChars_cons, readFraction] at read
      split at read
      · rename_i point
        obtain rfl := (isCharacter_scalar _ _).mp point
        split at read
        · contradiction
        · rename_i digits rest within found
          obtain ⟨behind, rfl, spelled⟩ := (readDigits_exact atEnd).sound found
          obtain ⟨exponent, left, exponentSpelled, rest, value⟩ :=
            @readExponent_sound _ _ { numeral with fraction := some digits } _ _ _ noExponent read
          cases spelled with
          | mk spelled =>
              exact ⟨_, behind, exponent, left, .digits spelled, exponentSpelled, rest, value⟩
      · obtain ⟨exponent, left, spelled, rest, value⟩ :=
          @readExponent_sound _ _ _ (character :: chars) _ _ noExponent read
        rw [kept] at value
        exact ⟨_, _, exponent, left, .none _, spelled, rest, value⟩

theorem readFraction_complete {start : Source} {numeral : Numeral}
    (fractionSpelled : Fraction fraction chars behind)
    (exponentSpelled : Exponent exponent behind left) (delimited : Delimited left)
    (atEnd : Cause) (noFraction : numeral.fraction = none) (noExponent : numeral.exponent = none)
    (shorter : (ofChars chars).length < start.length) :
    ∃ fewer, readFraction atEnd numeral (ofChars chars) shorter =
      .ok ⟨{ numeral with fraction, exponent }, ofChars left, fewer⟩ := by
  have stops := stops_of_exponent exponentSpelled delimited
  cases fractionSpelled with
  | none =>
      have kept : { numeral with fraction := none, exponent } = { numeral with exponent } := by
        rw [← noFraction]
      rw [kept]
      obtain ⟨fewer, read⟩ :=
        readExponent_complete exponentSpelled delimited atEnd noExponent shorter
      refine ⟨fewer, ?_⟩
      match chars with
      | [] => exact read
      | character :: chars =>
          have noPoint : isCharacter '.' (.scalar character) = false := by
            simp only [Stops, extendsDigits, Bool.or_eq_false_iff, beq_eq_false_iff_ne] at stops
            simp [isCharacter, stops.2]
          simp only [ofChars_cons, readFraction, noPoint]
          exact read
  | @digits digit digits chars _ spelled =>
      have noDigit : Stops Char.isDigit behind := stops_of_fraction (.none behind) stops
      obtain ⟨within, found⟩ := (readDigits_exact atEnd).complete (.mk spelled) noDigit
      obtain ⟨fewer, read⟩ := @readExponent_complete _
        { numeral with fraction := some (digit :: digits) } _ _ _ exponentSpelled delimited atEnd
        noExponent (length_lt_of_cons_lt shorter within)
      refine ⟨fewer, ?_⟩
      simp only [ofChars_cons, readFraction, isCharacter, BEq.rfl, ↓reduceIte, found]
      exact read

/-- A magnitude is read in two steps, whatever its sign and wherever the whole input began. -/
theorem readMagnitude_complete {numeral : Numeral} {chars left : List Char}
    (spelled : Magnitude numeral chars left) (delimited : Delimited left) (atEnd : Cause) :
    ∃ digits behind shorter,
      readWhole atEnd (ofChars chars) = .ok ⟨digits, behind, shorter⟩ ∧
        ∀ (start : Source) (within : behind.length < start.length),
          ∃ fewer, readFraction atEnd ⟨numeral.negative, digits, none, none⟩ behind within =
            .ok ⟨numeral, ofChars left, fewer⟩ := by
  cases spelled with
  | @mk negative whole fraction exponent _ behind _ _ wholeSpelled fractionSpelled
      exponentSpelled =>
      have stops := stops_of_fraction fractionSpelled
        (stops_of_exponent exponentSpelled delimited)
      obtain ⟨shorter, found⟩ := (readWhole_exact atEnd).complete wholeSpelled stops
      refine ⟨whole, ofChars behind, shorter, found, fun start within => ?_⟩
      exact readFraction_complete fractionSpelled exponentSpelled delimited atEnd rfl rfl within

end Parts

theorem readNumeral_exact (atEnd : Cause) : ExactBefore Delimited (readNumeral atEnd) Number where
  sound {chars taken} read := by
    match chars with
    | [] => simp [readNumeral] at read
    | character :: chars =>
        simp only [ofChars_cons, readNumeral] at read
        split at read
        · rename_i minus
          obtain rfl := (isCharacter_scalar _ _).mp minus
          split at read
          · contradiction
          · rename_i digits rest shorter found
            obtain ⟨behind, rfl, whole⟩ := (readWhole_exact atEnd).sound found
            obtain ⟨_, _, _, left, fraction, exponent, rest, value⟩ :=
              readFraction_sound rfl rfl read
            exact ⟨left, rest, value ▸ .negative rfl (.mk whole fraction exponent)⟩
        · split at read
          · contradiction
          · rename_i digits rest shorter found
            obtain ⟨behind, rfl, whole⟩ :=
              @ExactBefore.sound _ _ _ _ (readWhole_exact atEnd) (character :: chars) _ found
            obtain ⟨_, _, _, left, fraction, exponent, rest, value⟩ :=
              readFraction_sound rfl rfl read
            exact ⟨left, rest, value ▸ .positive rfl (.mk whole fraction exponent)⟩
  complete {chars left numeral} spelled delimited := by
    cases spelled with
    | negative signed spelled =>
        obtain ⟨digits, behind, shorter, found, fraction⟩ :=
          readMagnitude_complete spelled delimited atEnd
        obtain ⟨fewer, read⟩ := fraction _ (length_lt_cons_of_lt shorter)
        refine ⟨fewer, ?_⟩
        rw [signed] at read
        simp only [ofChars_cons, readNumeral, isCharacter, BEq.rfl, ↓reduceIte, found]
        exact read
    | positive plain spelled =>
        obtain ⟨digits, behind, shorter, found, fraction⟩ :=
          readMagnitude_complete spelled delimited atEnd
        obtain ⟨character, others, rfl, isDigit⟩ := head_of_magnitude spelled
        obtain ⟨fewer, read⟩ := fraction _ shorter
        have unsigned : isCharacter '-' (.scalar character) = false := by
          simp only [isCharacter, beq_eq_false_iff_ne]
          rintro rfl
          contradiction
        refine ⟨fewer, ?_⟩
        rw [plain] at read
        simp only [ofChars_cons] at found ⊢
        simp only [readNumeral, unsigned, Bool.false_eq_true, ↓reduceIte, found]
        exact read

theorem skipNumber_exact :
    ExactBefore Delimited skipNumber fun _ chars rest =>
      ∃ numeral, Number numeral chars rest where
  sound read := by
    unfold skipNumber at read
    split at read
    · contradiction
    · rename_i numeral rest shorter found
      cases read
      obtain ⟨left, rest, spelled⟩ := (readNumeral_exact _).sound found
      exact ⟨left, rest, numeral, spelled⟩
  complete spelled delimited := by
    obtain ⟨numeral, spelled⟩ := spelled
    obtain ⟨shorter, found⟩ := (readNumeral_exact .badNumber).complete spelled delimited
    exact ⟨shorter, by simp [skipNumber, found]⟩

end CircuitDiagram.Json
