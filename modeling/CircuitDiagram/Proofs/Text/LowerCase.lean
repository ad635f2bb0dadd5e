import Mathlib.Data.List.Nodup
import CircuitDiagram.Text.LowerCase

/-!
Lower-casing of a text that goes on. Only a capital sigma looks at what comes behind the text, and
of that it sees just whether a word goes on. So behind a hyphen a text is lower-cased as at its end,
and before an extension as before a letter; the two differ for a text that ends a word with a
capital sigma, and for no other.
-/

namespace CircuitDiagram.Text

section Context

/-- The small forms of a text that goes on with `ahead`. -/
def lowerAhead (ahead before : List Char) : List Char → List Char
  | [] => []
  | character :: after =>
      smallForm before character (after ++ ahead) ++ lowerAhead ahead (character :: before) after

variable {ahead other before text : List Char}

theorem lowerAhead_nil (before text : List Char) : lowerAhead [] before text = lowerFrom before text := by
  induction text generalizing before with
  | nil => rfl
  | cons character after ih => rw [lowerAhead, lowerFrom, ih, List.append_nil]

theorem lowerFrom_append (before text ahead : List Char) :
    lowerFrom before (text ++ ahead) =
      lowerAhead ahead before text ++ lowerFrom (text.reverse ++ before) ahead := by
  induction text generalizing before with
  | nil => rfl
  | cons character after ih =>
      rw [List.cons_append, lowerFrom, ih, lowerAhead, List.append_assoc, List.reverse_cons,
        List.append_assoc]
      rfl

theorem lowerAhead_append (ahead before text more : List Char) :
    lowerAhead ahead before (text ++ more) =
      lowerAhead (more ++ ahead) before text ++
        lowerAhead ahead (text.reverse ++ before) more := by
  induction text generalizing before with
  | nil => rfl
  | cons character after ih =>
      rw [List.cons_append, lowerAhead, ih, lowerAhead, List.append_assoc, List.append_assoc,
        List.reverse_cons, List.append_assoc]
      rfl

/-- What case ignores is looked past; anything else decides. -/
theorem meetsCased_append (text ahead : List Char) :
    meetsCased (text ++ ahead) =
      if text.all isCaseIgnorable then meetsCased ahead else meetsCased text := by
  induction text with
  | nil => rfl
  | cons character after ih =>
      by_cases ignored : isCaseIgnorable character = true
      · simpa [meetsCased, List.dropWhile_cons, ignored] using ih
      · simp [meetsCased, ignored]

theorem smallForm_of_ne {character : Char} (noSigma : character ≠ 'Σ') (before after : List Char) :
    smallForm before character after = smallForm [] character [] := by
  simp only [smallForm, if_neg noSigma]

theorem smallForm_congr (before : List Char) (character : Char) {after other : List Char}
    (same : meetsCased after = meetsCased other) :
    smallForm before character after = smallForm before character other := by
  simp only [smallForm, same]

-- Of what comes behind, nothing counts but whether the word goes on.
theorem lowerAhead_congr (same : meetsCased ahead = meetsCased other) (before text : List Char) :
    lowerAhead ahead before text = lowerAhead other before text := by
  induction text generalizing before with
  | nil => rfl
  | cons character after ih =>
      have front : meetsCased (after ++ ahead) = meetsCased (after ++ other) := by
        rw [meetsCased_append, meetsCased_append, same]
      rw [lowerAhead, lowerAhead, smallForm_congr before character front, ih]

end Context

section SmallTexts

def isUncapital (character : Char) : Bool :=
  decide (character.toNat < 0x41 ∨ (0x5A < character.toNat ∧ character.toNat < 0xC0))

theorem capitalRuns_bounds :
    ∀ run ∈ capitalRuns, 0x41 ≤ run.first ∧ (run.last ≤ 0x5A ∨ 0xC0 ≤ run.first) := by
  decide +kernel

theorem smallLetter_of_isUncapital {character : Char} (small : isUncapital character = true) :
    smallLetter character = character := by
  have none : capitalRuns.find? (·.holds character.toNat) = none := by
    rw [List.find?_eq_none]
    intro run inside holds
    have bounds := capitalRuns_bounds run inside
    simp only [CapitalRun.holds, decide_eq_true_eq] at holds
    simp only [isUncapital, decide_eq_true_eq] at small
    omega
  rw [smallLetter, none]

theorem lowerFrom_of_isUncapital {text : List Char} (small : text.all isUncapital = true)
    (before : List Char) : lowerFrom before text = text := by
  induction text generalizing before with
  | nil => rfl
  | cons character after ih =>
      rw [List.all_cons, Bool.and_eq_true] at small
      have noSigma : character ≠ 'Σ' := by
        rintro rfl
        exact absurd small.1 (by decide)
      have noDotted : character ≠ 'İ' := by
        rintro rfl
        exact absurd small.1 (by decide)
      rw [lowerFrom, smallForm, if_neg noSigma, if_neg noDotted,
        smallLetter_of_isUncapital small.1, ih small.2]
      rfl

end SmallTexts

section Sigmas

def isSmallSigma (character : Char) : Bool :=
  character == 'σ' || character == 'ς'

theorem isCaseIgnorable_sigma : isCaseIgnorable 'Σ' = false ∧ isCaseIgnorable 'σ' = false ∧
    isCaseIgnorable 'ς' = false := by
  decide +kernel

theorem isCased_sigma : isCased 'Σ' = true ∧ isCased 'σ' = true := by
  decide +kernel

theorem meetsCased_sigma {sigma : Char} (isSigma : sigma = 'Σ' ∨ sigma = 'σ') (rest : List Char) :
    meetsCased (sigma :: rest) = true := by
  rcases isSigma with rfl | rfl
  · simp [meetsCased, isCaseIgnorable_sigma, isCased_sigma]
  · simp [meetsCased, isCaseIgnorable_sigma, isCased_sigma]

-- No other capital has a small sigma for its small letter.
theorem capitalRuns_sigma :
    ∀ run ∈ capitalRuns, run.image ≤ 0x3C3 → 0x3C2 ≤ run.image + (run.last - run.first) →
      run.first = 0x3A3 ∧ run.image = 0x3C3 := by
  decide +kernel

/-- A number that is no code point makes the character zero. -/
theorem toNat_ofNat (number : Nat) :
    (Char.ofNat number).toNat = number ∨ (Char.ofNat number).toNat = 0 := by
  by_cases valid : number.isValidChar
  · left
    rw [Char.ofNat, dif_pos valid]
    rfl
  · right
    rw [Char.ofNat, dif_neg valid]
    rfl

theorem isSmallSigma_smallLetter {character : Char} (ignored : isCaseIgnorable character = true) :
    isSmallSigma (smallLetter character) = false := by
  obtain ⟨noCapital, noSmall, noFinal⟩ := isCaseIgnorable_sigma
  rw [Bool.eq_false_iff]
  intro small
  simp only [isSmallSigma, Bool.or_eq_true, beq_iff_eq] at small
  cases found : capitalRuns.find? (·.holds character.toNat) with
  | none =>
      simp only [smallLetter, found] at small
      rcases small with rfl | rfl
      · simp [noSmall] at ignored
      · simp [noFinal] at ignored
  | some run =>
      have inside := List.mem_of_find?_eq_some found
      have holds := List.find?_some found
      simp only [CapitalRun.holds, decide_eq_true_eq] at holds
      simp only [smallLetter, found] at small
      have code : (Char.ofNat (run.image + (character.toNat - run.first))).toNat = 0x3C3 ∨
          (Char.ofNat (run.image + (character.toNat - run.first))).toNat = 0x3C2 := by
        rcases small with same | same
        · exact .inl (congrArg Char.toNat same)
        · exact .inr (congrArg Char.toNat same)
      have number := toNat_ofNat (run.image + (character.toNat - run.first))
      have sigma := capitalRuns_sigma run inside (by omega) (by omega)
      have capital : character = 'Σ' := Char.toNat_inj.mp (show character.toNat = 0x3A3 by omega)
      simp [capital, noCapital] at ignored

theorem ne_sigma_of_isCaseIgnorable {text : List Char} (ignored : text.all isCaseIgnorable = true) :
    ∀ character ∈ text, character ≠ 'Σ' := by
  rintro character inside rfl
  have here := List.all_eq_true.mp ignored _ inside
  simp [isCaseIgnorable_sigma] at here

theorem lowerAhead_of_ne_sigma {text : List Char} (noSigma : ∀ character ∈ text, character ≠ 'Σ')
    (ahead before : List Char) :
    lowerAhead ahead before text = text.flatMap fun character => smallForm [] character [] := by
  induction text generalizing before with
  | nil => rfl
  | cons character after ih =>
      rw [lowerAhead, smallForm_of_ne (noSigma character List.mem_cons_self),
        ih fun other inside => noSigma other (List.mem_cons_of_mem _ inside)]
      rfl

theorem isSmallSigma_lowerAhead {text : List Char} (ignored : text.all isCaseIgnorable = true)
    (ahead before : List Char) :
    ∀ character ∈ lowerAhead ahead before text, isSmallSigma character = false := by
  have noSigma := ne_sigma_of_isCaseIgnorable ignored
  rw [lowerAhead_of_ne_sigma noSigma]
  intro small inside
  obtain ⟨character, inText, inForm⟩ := List.mem_flatMap.mp inside
  have here := List.all_eq_true.mp ignored _ inText
  rw [smallForm, if_neg (noSigma character inText)] at inForm
  split at inForm
  · rename_i dotted
    rcases List.mem_pair.mp inForm with rfl | rfl
    · rfl
    · rfl
  · obtain rfl := List.mem_singleton.mp inForm
    exact isSmallSigma_smallLetter here

end Sigmas

section FinalSigma

/-- A capital sigma behind `front` is final if a word ends with it: `front` ends with a cased letter,
and case ignores what is left behind the sigma, as it does with what `front` may end with. -/
structure FinalSigma (front ignored : List Char) : Prop where
  follows : meetsCased front.reverse = true
  ignores : ignored.all isCaseIgnorable = true

variable {front ignored otherFront otherIgnored ahead before text : List Char}

/-- What is in front of a sigma, capital or small, sees that the word goes on. -/
theorem lowerAhead_before_sigma {sigma : Char} (isSigma : sigma = 'Σ' ∨ sigma = 'σ')
    (rest front : List Char) :
    lowerAhead (sigma :: rest) [] front = lowerAhead ['Σ'] [] front :=
  lowerAhead_congr ((meetsCased_sigma isSigma rest).trans (meetsCased_sigma (.inl rfl) []).symm)
    [] front

theorem lowerFrom_finalSigma (final : FinalSigma front ignored) :
    lowerFrom [] (front ++ 'Σ' :: ignored) =
      lowerAhead ['Σ'] [] front ++ 'ς' :: lowerFrom [] ignored := by
  have ends : meetsCased ignored = false := by
    have none := meetsCased_append ignored []
    rwa [List.append_nil, if_pos final.ignores] at none
  have noSigma := lowerAhead_of_ne_sigma (ne_sigma_of_isCaseIgnorable final.ignores) []
  rw [lowerFrom_append, lowerAhead_before_sigma (.inl rfl), List.append_nil, lowerFrom, smallForm,
    if_pos rfl, final.follows, ends, ← lowerAhead_nil, ← lowerAhead_nil, noSigma, noSigma]
  rfl

theorem lowerFrom_smallSigma (front ignored : List Char)
    (ignores : ignored.all isCaseIgnorable = true) :
    lowerFrom [] (front ++ 'σ' :: ignored) =
      lowerAhead ['Σ'] [] front ++ 'σ' :: lowerFrom [] ignored := by
  have small (before after : List Char) : smallForm before 'σ' after = ['σ'] := by
    rw [smallForm_of_ne (by decide)]
    decide +kernel
  have noSigma := lowerAhead_of_ne_sigma (ne_sigma_of_isCaseIgnorable ignores) []
  rw [lowerFrom_append, lowerAhead_before_sigma (.inr rfl), List.append_nil, lowerFrom, small,
    ← lowerAhead_nil, ← lowerAhead_nil, noSigma, noSigma]
  rfl

/-- Where the word goes on behind the text, the sigma is not final. -/
theorem lowerAhead_finalSigma (final : FinalSigma front ignored) (goesOn : meetsCased ahead = true) :
    lowerAhead ahead [] (front ++ 'Σ' :: ignored) = lowerFrom [] (front ++ 'σ' :: ignored) := by
  have behind : meetsCased (ignored ++ ahead) = true := by
    rw [meetsCased_append, if_pos final.ignores, goesOn]
  have noSigma := lowerAhead_of_ne_sigma (ne_sigma_of_isCaseIgnorable final.ignores)
  rw [lowerFrom_smallSigma front ignored final.ignores, lowerAhead_append, List.cons_append,
    lowerAhead_before_sigma (.inl rfl), lowerAhead, smallForm, if_pos rfl, behind, noSigma,
    ← lowerAhead_nil, noSigma]
  simp

-- Only a capital sigma with nothing but ignored characters behind it can tell the difference.
theorem lowerAhead_of_no_finalSigma
    (none : ∀ front ignored, text = front ++ 'Σ' :: ignored → ignored.all isCaseIgnorable = true →
      meetsCased (front.reverse ++ before) = false) :
    lowerAhead ahead before text = lowerFrom before text := by
  induction text generalizing before with
  | nil => rfl
  | cons character after ih =>
      have later : lowerAhead ahead (character :: before) after =
          lowerFrom (character :: before) after := by
        apply ih
        intro front ignored same ignores
        simpa using none (character :: front) ignored (by rw [same]; rfl) ignores
      have here : smallForm before character (after ++ ahead) =
          smallForm before character after := by
        by_cases sigma : character = 'Σ'
        · subst sigma
          by_cases ignores : after.all isCaseIgnorable = true
          · have nothing : meetsCased before = false := none [] after rfl ignores
            simp only [smallForm, nothing, Bool.false_and]
          · apply smallForm_congr
            rw [meetsCased_append, if_neg ignores]
        · rw [smallForm_of_ne sigma, smallForm_of_ne sigma before after]
      rw [lowerAhead, lowerFrom, here, later]

/-- Two texts with a small sigma each, and none behind it, are the same in front of it too. -/
theorem append_sigma_inj {small otherSmall : Char} {tail otherTail : List Char}
    (isSmall : isSmallSigma small = true) (otherIsSmall : isSmallSigma otherSmall = true)
    (none : ∀ character ∈ tail, isSmallSigma character = false)
    (otherNone : ∀ character ∈ otherTail, isSmallSigma character = false)
    (same : front ++ small :: tail = otherFront ++ otherSmall :: otherTail) :
    front = otherFront ∧ small = otherSmall ∧ tail = otherTail := by
  rcases List.append_eq_append_iff.mp same with ⟨between, split, rest⟩ | ⟨between, split, rest⟩
  · cases between with
    | nil =>
        obtain ⟨rfl, rfl⟩ := List.cons.inj rest
        exact ⟨by simpa using split.symm, rfl, rfl⟩
    | cons first between =>
        obtain ⟨rfl, rfl⟩ := List.cons.inj rest
        have absent := none otherSmall (by simp)
        simp [otherIsSmall] at absent
  · cases between with
    | nil =>
        obtain ⟨rfl, rfl⟩ := List.cons.inj rest
        exact ⟨by simpa using split, rfl, rfl⟩
    | cons first between =>
        obtain ⟨rfl, rfl⟩ := List.cons.inj rest
        have absent := otherNone small (by simp)
        simp [isSmall] at absent

end FinalSigma

section Extensions

variable {text other ahead : String}

/-- The text ends a word with a capital sigma, and the other is, letter case apart, what it becomes
when that sigma is written small. -/
def SigmaTwins (text other : String) : Prop :=
  ∃ front ignored, text.toList = front ++ 'Σ' :: ignored ∧ FinalSigma front ignored ∧
    lowerCase other = lowerCase (String.ofList (front ++ 'σ' :: ignored))

theorem lowerCase_append (small : ahead.toList.all isUncapital = true) (text : String) :
    lowerCase (text ++ ahead) =
      String.ofList (lowerAhead ahead.toList [] text.toList) ++ ahead := by
  rw [lowerCase, String.toList_append, lowerFrom_append, lowerFrom_of_isUncapital small,
    String.ofList_append, String.ofList_toList]

/-- Behind a text that is followed by no letter the case of the text is as at its end. -/
theorem lowerCase_append_of_ends (small : ahead.toList.all isUncapital = true)
    (ends : meetsCased ahead.toList = false) (text : String) :
    lowerCase (text ++ ahead) = lowerCase text ++ ahead := by
  have same : meetsCased ahead.toList = meetsCased [] := ends
  rw [lowerCase_append small, lowerAhead_congr same, lowerAhead_nil, lowerCase]

theorem lowerCase_of_isUncapital (small : text.toList.all isUncapital = true) :
    lowerCase text = text := by
  rw [lowerCase, lowerFrom_of_isUncapital small, String.ofList_toList]

theorem lowerAhead_cases (ahead text : List Char) (goesOn : meetsCased ahead = true) :
    (∃ front ignored, text = front ++ 'Σ' :: ignored ∧ FinalSigma front ignored ∧
        lowerAhead ahead [] text = lowerFrom [] (front ++ 'σ' :: ignored)) ∨
      lowerAhead ahead [] text = lowerFrom [] text := by
  by_cases final : ∃ front ignored, text = front ++ 'Σ' :: ignored ∧ FinalSigma front ignored
  · obtain ⟨front, ignored, rfl, final⟩ := final
    exact .inl ⟨front, ignored, rfl, final, lowerAhead_finalSigma final goesOn⟩
  · right
    apply lowerAhead_of_no_finalSigma
    intro front ignored same ignores
    rw [Bool.eq_false_iff]
    intro follows
    exact final ⟨front, ignored, same, by simpa using follows, ignores⟩

theorem lowerCase_eq_iff : lowerCase text = lowerCase other ↔
    lowerFrom [] text.toList = lowerFrom [] other.toList := by
  rw [lowerCase, lowerCase, String.ofList_inj]

theorem lowerCase_append_eq_iff (small : ahead.toList.all isUncapital = true) :
    lowerCase (text ++ ahead) = lowerCase (other ++ ahead) ↔
      lowerAhead ahead.toList [] text.toList = lowerAhead ahead.toList [] other.toList := by
  rw [lowerCase_append small, lowerCase_append small, String.append_left_inj, String.ofList_inj]

theorem isSmallSigma_lowerFrom {ignored : List Char} (ignores : ignored.all isCaseIgnorable = true) :
    ∀ character ∈ lowerFrom [] ignored, isSmallSigma character = false := by
  rw [← lowerAhead_nil]
  exact isSmallSigma_lowerAhead ignores [] []

theorem lowerFrom_eq_of_finalSigma {front ignored otherFront otherIgnored : List Char}
    (final : FinalSigma front ignored) (otherFinal : FinalSigma otherFront otherIgnored)
    (same : lowerFrom [] (front ++ 'σ' :: ignored) =
      lowerFrom [] (otherFront ++ 'σ' :: otherIgnored)) :
    lowerFrom [] (front ++ 'Σ' :: ignored) = lowerFrom [] (otherFront ++ 'Σ' :: otherIgnored) := by
  rw [lowerFrom_smallSigma _ _ final.ignores, lowerFrom_smallSigma _ _ otherFinal.ignores] at same
  obtain ⟨fronts, -, tails⟩ := append_sigma_inj rfl rfl (isSmallSigma_lowerFrom final.ignores)
    (isSmallSigma_lowerFrom otherFinal.ignores) same
  rw [lowerFrom_finalSigma final, lowerFrom_finalSigma otherFinal, fronts, tails]

-- A text of which the last small sigma is not final cannot have come of a final capital.
theorem lowerAhead_of_sigmaTwins (twins : SigmaTwins text other) {ahead : List Char}
    (goesOn : meetsCased ahead = true) :
    lowerAhead ahead [] text.toList = lowerAhead ahead [] other.toList := by
  obtain ⟨front, ignored, same, final, lowered⟩ := twins
  rw [lowerCase_eq_iff, String.toList_ofList] at lowered
  rw [same, lowerAhead_finalSigma final goesOn, ← lowered]
  rcases lowerAhead_cases ahead other.toList goesOn with
    ⟨otherFront, otherIgnored, otherSame, otherFinal, -⟩ | unchanged
  · rw [otherSame, lowerFrom_finalSigma otherFinal, lowerFrom_smallSigma _ _ final.ignores]
      at lowered
    obtain ⟨-, clash, -⟩ := append_sigma_inj rfl rfl
      (isSmallSigma_lowerFrom otherFinal.ignores) (isSmallSigma_lowerFrom final.ignores) lowered
    exact absurd clash (by decide)
  · exact unchanged.symm

/-- Two texts that differ in more than letter case still do so in front of a letter, unless one ends
with a final capital sigma and the other has a small one in its place. -/
theorem lowerCase_append_eq_iff_sigmaTwins (small : ahead.toList.all isUncapital = true)
    (goesOn : meetsCased ahead.toList = true) (different : lowerCase text ≠ lowerCase other) :
    lowerCase (text ++ ahead) = lowerCase (other ++ ahead) ↔
      SigmaTwins text other ∨ SigmaTwins other text := by
  rw [lowerCase_append_eq_iff small]
  constructor
  · intro same
    rw [ne_eq, lowerCase_eq_iff] at different
    rcases lowerAhead_cases ahead.toList text.toList goesOn with
      ⟨front, ignored, split, final, medial⟩ | unchanged
    · rcases lowerAhead_cases ahead.toList other.toList goesOn with
        ⟨otherFront, otherIgnored, otherSplit, otherFinal, otherMedial⟩ | otherUnchanged
      · rw [medial, otherMedial] at same
        have equal := lowerFrom_eq_of_finalSigma final otherFinal same
        rw [← split, ← otherSplit] at equal
        exact absurd equal different
      · left
        refine ⟨front, ignored, split, final, ?_⟩
        rw [lowerCase_eq_iff, String.toList_ofList, ← medial, same, otherUnchanged]
    · rcases lowerAhead_cases ahead.toList other.toList goesOn with
        ⟨otherFront, otherIgnored, otherSplit, otherFinal, otherMedial⟩ | otherUnchanged
      · right
        refine ⟨otherFront, otherIgnored, otherSplit, otherFinal, ?_⟩
        rw [lowerCase_eq_iff, String.toList_ofList, ← otherMedial, ← same, unchanged]
      · exact absurd (unchanged.symm.trans (same.trans otherUnchanged)) different
  · rintro (twins | twins)
    · exact lowerAhead_of_sigmaTwins twins goesOn
    · exact (lowerAhead_of_sigmaTwins twins goesOn).symm

end Extensions

end CircuitDiagram.Text
