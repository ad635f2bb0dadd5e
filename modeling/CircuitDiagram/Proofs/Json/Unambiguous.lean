import CircuitDiagram.Proofs.Json.Skip

/-!
A text is one value of the grammar at most. The first character behind blanks tells which rule
spells a value, and what is behind it tells that a number has come to its end.
-/

namespace CircuitDiagram.Json

section Leaves

variable {α : Type} {chars rest otherRest : List Char}

theorem ofChars_injective (same : ofChars otherRest = ofChars rest) : otherRest = rest :=
  (List.map_inj_right fun _ _ => Symbol.scalar.inj).mp same

/-- A reader gives one result, so a relation that it is exact for names one value. -/
theorem ExactBefore.unique {follows : List Char → Prop} {reader : Reader α} {spelling : Spelling α}
    (exact : ExactBefore follows reader spelling) {value other : α}
    (spelled : spelling value chars rest) (follow : follows rest)
    (otherSpelled : spelling other chars otherRest) (otherFollow : follows otherRest) :
    other = value ∧ otherRest = rest := by
  obtain ⟨_, read⟩ := exact.complete spelled follow
  obtain ⟨_, otherRead⟩ := exact.complete otherSpelled otherFollow
  rw [read] at otherRead
  simp only [Except.ok.injEq, Taken.mk.injEq] at otherRead
  exact ⟨otherRead.1.symm, (ofChars_injective otherRead.2).symm⟩

theorem shortEscape_unique {letter character other : Char} (escape : ShortEscape letter character)
    (otherEscape : ShortEscape letter other) : other = character := by
  rw [shortEscape_iff] at escape otherEscape
  exact Option.some.inj (otherEscape.symm.trans escape)

theorem not_shortEscape_unit (character : Char) : ¬ ShortEscape 'u' character := by
  intro escape
  cases escape

theorem marks_unique {marks other : List Mark} (spelled : Marks marks chars rest)
    (otherSpelled : Marks other chars otherRest) : other = marks ∧ otherRest = rest := by
  induction spelled generalizing other with
  | none =>
      cases otherSpelled with
      | none => exact ⟨rfl, rfl⟩
      | plain noQuote => contradiction
  | plain noQuote noBackslash _ _ ih =>
      cases otherSpelled with
      | none => contradiction
      | plain _ _ _ others =>
          obtain ⟨rfl, rfl⟩ := ih others
          exact ⟨rfl, rfl⟩
      | short | unit => contradiction
  | short escape _ ih =>
      cases otherSpelled with
      | plain _ noBackslash => contradiction
      | short otherEscape others =>
          obtain rfl := shortEscape_unique escape otherEscape
          obtain ⟨rfl, rfl⟩ := ih others
          exact ⟨rfl, rfl⟩
      | unit => exact absurd escape (not_shortEscape_unit _)
  | unit digits _ ih =>
      cases otherSpelled with
      | plain _ noBackslash => contradiction
      | short otherEscape => exact absurd otherEscape (not_shortEscape_unit _)
      | unit otherDigits others =>
          obtain ⟨rfl, rfl⟩ := readHex_exact.unique digits trivial otherDigits trivial
          obtain ⟨rfl, rfl⟩ := ih others
          exact ⟨rfl, rfl⟩

end Leaves

section Blanks

variable {chars start other : List Char}

theorem blanks_unique (blanks : Blanks chars start) (otherBlanks : Blanks chars other)
    (black : unblanked start = start) (otherBlack : unblanked other = other) : other = start := by
  rw [← black, ← otherBlack, ← unblanked_of_blanks blanks, ← unblanked_of_blanks otherBlanks]

/-- The character that ends the blanks is one and the same. -/
theorem blanks_unique_head {character letter : Char} {rest otherRest : List Char}
    (blanks : Blanks chars (character :: rest)) (black : isWhite character = false)
    (otherBlanks : Blanks chars (letter :: otherRest)) (otherBlack : isWhite letter = false) :
    letter = character ∧ otherRest = rest :=
  List.cons.inj (blanks_unique blanks otherBlanks (unblanked_of_black black rest)
    (unblanked_of_black otherBlack otherRest))

theorem unblanked_of_value {tree : Tree} {rest : List Char}
    (spelled : Spells (.value tree) chars rest) : unblanked chars = chars := by
  obtain ⟨character, others, rfl, begins⟩ := head_of_value spelled
  exact unblanked_of_black (black_of_beginsValue begins) others

theorem blanks_unique_value {tree otherTree : Tree} {rest otherRest : List Char}
    (blanks : Blanks chars start) (spelled : Spells (.value tree) start rest)
    (otherBlanks : Blanks chars other) (otherSpelled : Spells (.value otherTree) other otherRest) :
    other = start :=
  blanks_unique blanks otherBlanks (unblanked_of_value spelled) (unblanked_of_value otherSpelled)

theorem not_closing_of_inside {bracket : Bracket} {rest otherRest : List Char}
    (inside : bracket.Inside chars rest) : ¬ Blanks chars (bracket.closing :: otherRest) := by
  intro blanks
  obtain ⟨character, others, otherBlanks, black, different⟩ := head_of_inside inside
  have closes : isWhite bracket.closing = false := by cases bracket <;> rfl
  exact different (blanks_unique_head blanks closes otherBlanks black).1

end Blanks

/-- The text begins with a part of this sort in one way only. A value has to be one that nothing
behind it goes on with. -/
def Sole : Part → List Char → List Char → Prop
  | .value tree, chars, rest =>
      Delimited rest → ∀ other otherRest, Spells (.value other) chars otherRest →
        Delimited otherRest → other = tree ∧ otherRest = rest
  | .elements elements, chars, rest =>
      ∀ other otherRest, Spells (.elements other) chars otherRest →
        other = elements ∧ otherRest = rest
  | .moreElements elements, chars, rest =>
      ∀ other otherRest, Spells (.moreElements other) chars otherRest →
        other = elements ∧ otherRest = rest
  | .members members, chars, rest =>
      ∀ other otherRest, Spells (.members other) chars otherRest →
        other = members ∧ otherRest = rest
  | .moreMembers members, chars, rest =>
      ∀ other otherRest, Spells (.moreMembers other) chars otherRest →
        other = members ∧ otherRest = rest

section Values

variable {chars rest : List Char}

theorem sole_number {numeral : Numeral} (spelled : Number numeral chars rest) :
    Sole (.value (.number numeral)) chars rest := by
  intro delimited other otherRest otherSpelled otherDelimited
  cases otherSpelled with
  | number otherSpelled =>
      obtain ⟨rfl, rfl⟩ :=
        (readNumeral_exact .badNumber).unique spelled delimited otherSpelled otherDelimited
      exact ⟨rfl, rfl⟩
  | null | yes | no | text | emptyList | list | emptyObject | object =>
      exact absurd (head_of_number spelled) (by decide)

theorem sole_emptyList (blanks : Blanks chars (']' :: rest)) :
    Sole (.value (.list [])) ('[' :: chars) rest := by
  intro _ other otherRest otherSpelled _
  cases otherSpelled with
  | number spelled => exact absurd (head_of_number spelled) (by decide)
  | emptyList otherBlanks =>
      obtain ⟨-, rfl⟩ := blanks_unique_head blanks rfl otherBlanks rfl
      exact ⟨rfl, rfl⟩
  | list inside =>
      exact absurd blanks (@not_closing_of_inside _ .list _ _ ⟨_, inside⟩)

theorem sole_emptyObject (blanks : Blanks chars ('}' :: rest)) :
    Sole (.value (.object [])) ('{' :: chars) rest := by
  intro _ other otherRest otherSpelled _
  cases otherSpelled with
  | number spelled => exact absurd (head_of_number spelled) (by decide)
  | emptyObject otherBlanks =>
      obtain ⟨-, rfl⟩ := blanks_unique_head blanks rfl otherBlanks rfl
      exact ⟨rfl, rfl⟩
  | object inside =>
      exact absurd blanks (@not_closing_of_inside _ .object _ _ ⟨_, inside⟩)

theorem sole_list {elements : List Tree} (inside : Spells (.elements elements) chars rest)
    (sole : Sole (.elements elements) chars rest) :
    Sole (.value (.list elements)) ('[' :: chars) rest := by
  intro _ other otherRest otherSpelled _
  cases otherSpelled with
  | number spelled => exact absurd (head_of_number spelled) (by decide)
  | emptyList blanks =>
      exact absurd blanks (@not_closing_of_inside _ .list _ _ ⟨_, inside⟩)
  | list otherInside =>
      obtain ⟨rfl, rfl⟩ := sole _ _ otherInside
      exact ⟨rfl, rfl⟩

theorem sole_object {members : List (List Mark × Tree)}
    (inside : Spells (.members members) chars rest) (sole : Sole (.members members) chars rest) :
    Sole (.value (.object members)) ('{' :: chars) rest := by
  intro _ other otherRest otherSpelled _
  cases otherSpelled with
  | number spelled => exact absurd (head_of_number spelled) (by decide)
  | emptyObject blanks =>
      exact absurd blanks (@not_closing_of_inside _ .object _ _ ⟨_, inside⟩)
  | object otherInside =>
      obtain ⟨rfl, rfl⟩ := sole _ _ otherInside
      exact ⟨rfl, rfl⟩

end Values

-- By the first of two derivations; the second has to go the same way at every step.
theorem sole_of_spells {part : Part} {chars rest : List Char}
    (spelled : Spells part chars rest) : Sole part chars rest := by
  induction spelled with
  | null | yes | no =>
      intro _ other otherRest otherSpelled _
      cases otherSpelled with
      | number spelled => exact absurd (head_of_number spelled) (by decide)
      | _ => exact ⟨rfl, rfl⟩
  | number spelled => exact sole_number spelled
  | text spelled =>
      intro _ other otherRest otherSpelled _
      obtain ⟨marks, rfl, otherMarks⟩ := text_of_quote otherSpelled
      obtain ⟨rfl, rfl⟩ := marks_unique spelled otherMarks
      exact ⟨rfl, rfl⟩
  | emptyList blanks => exact sole_emptyList blanks
  | emptyObject blanks => exact sole_emptyObject blanks
  | list inside ih => exact sole_list inside ih
  | object inside ih => exact sole_object inside ih
  | element blanks first others value behind =>
      intro other otherRest otherSpelled
      cases otherSpelled with
      | element otherBlanks otherFirst otherOthers =>
          obtain rfl := blanks_unique_value blanks first otherBlanks otherFirst
          obtain ⟨rfl, rfl⟩ := value (delimited_of_moreElements others) _ _ otherFirst
            (delimited_of_moreElements otherOthers)
          obtain ⟨rfl, rfl⟩ := behind _ _ otherOthers
          exact ⟨rfl, rfl⟩
  | noElement blanks =>
      intro other otherRest otherSpelled
      cases otherSpelled with
      | noElement otherBlanks =>
          exact ⟨rfl, (blanks_unique_head blanks rfl otherBlanks rfl).2⟩
      | nextElement otherBlanks =>
          exact absurd (blanks_unique_head blanks rfl otherBlanks rfl).1 (by decide)
  | nextElement blanks _ ih =>
      intro other otherRest otherSpelled
      cases otherSpelled with
      | noElement otherBlanks =>
          exact absurd (blanks_unique_head blanks rfl otherBlanks rfl).1 (by decide)
      | nextElement otherBlanks others =>
          obtain ⟨-, rfl⟩ := blanks_unique_head blanks rfl otherBlanks rfl
          exact ih _ _ others
  | member blanks name colon blanksThen spelled others value behind =>
      intro other otherRest otherSpelled
      cases otherSpelled with
      | member otherBlanks otherName otherColon otherBlanksThen otherValue otherOthers =>
          obtain ⟨-, rfl⟩ := blanks_unique_head blanks rfl otherBlanks rfl
          obtain ⟨rfl, rfl⟩ := marks_unique name otherName
          obtain ⟨-, rfl⟩ := blanks_unique_head colon rfl otherColon rfl
          obtain rfl := blanks_unique_value blanksThen spelled otherBlanksThen otherValue
          obtain ⟨rfl, rfl⟩ := value (delimited_of_moreMembers others) _ _ otherValue
            (delimited_of_moreMembers otherOthers)
          obtain ⟨rfl, rfl⟩ := behind _ _ otherOthers
          exact ⟨rfl, rfl⟩
  | noMember blanks =>
      intro other otherRest otherSpelled
      cases otherSpelled with
      | noMember otherBlanks =>
          exact ⟨rfl, (blanks_unique_head blanks rfl otherBlanks rfl).2⟩
      | nextMember otherBlanks =>
          exact absurd (blanks_unique_head blanks rfl otherBlanks rfl).1 (by decide)
  | nextMember blanks _ ih =>
      intro other otherRest otherSpelled
      cases otherSpelled with
      | noMember otherBlanks =>
          exact absurd (blanks_unique_head blanks rfl otherBlanks rfl).1 (by decide)
      | nextMember otherBlanks others =>
          obtain ⟨-, rfl⟩ := blanks_unique_head blanks rfl otherBlanks rfl
          exact ih _ _ others

theorem isText_unique {text : String} {tree other : Tree} (spelled : IsText text tree)
    (otherSpelled : IsText text other) : other = tree := by
  obtain ⟨start, behind, blanks, spelled, blanksBehind⟩ := spelled
  obtain ⟨otherStart, otherBehind, otherBlanks, otherSpelled, otherBlanksBehind⟩ := otherSpelled
  obtain rfl := blanks_unique_value blanks spelled otherBlanks otherSpelled
  exact (sole_of_spells spelled (delimited_of_blanks blanksBehind trivial) _ _ otherSpelled
    (delimited_of_blanks otherBlanksBehind trivial)).1

end CircuitDiagram.Json
