import Mathlib.Data.List.Perm.Subperm
import CircuitDiagram.Run.Stem
import CircuitDiagram.Proofs.Text.LowerCase

/-!
The stem that is found when others are taken. Numbers behind a stem stay apart when letter case is
dropped, so among one number more than there are taken stems there is a free one, and the search
gives the least.
-/

namespace CircuitDiagram

open Text

theorem toString_injective {number other : Nat} (same : toString number = toString other) :
    number = other := by
  have digits : Nat.toDigits 10 number = Nat.toDigits 10 other := by
    simpa only [Nat.toString_eq_repr, Nat.toList_repr] using congrArg String.toList same
  simpa using congrArg (fun digits => Nat.ofDigitChars 10 digits 0) digits

theorem isDigit_of_mem_toString {number : Nat} {character : Char}
    (inside : character ∈ (toString number).toList) : character.isDigit = true := by
  rw [Nat.toString_eq_repr, Nat.toList_repr] at inside
  exact Nat.isDigit_of_mem_toDigits (by decide) (by decide) inside

theorem isUncapital_toString (number : Nat) : (toString number).toList.all isUncapital = true := by
  rw [List.all_eq_true]
  intro character inside
  have digit := isDigit_of_mem_toString inside
  simp only [Char.isDigit, Bool.and_eq_true, decide_eq_true_eq, UInt32.le_iff_toNat_le] at digit
  have below : character.toNat ≤ 57 := digit.2
  simp only [isUncapital, decide_eq_true_eq]
  omega

theorem lowerCase_numbered (stem : String) (number : Nat) :
    lowerCase (numbered stem number) = lowerCase stem ++ "-" ++ toString number := by
  have small : ("-" ++ toString number).toList.all isUncapital = true := by
    rw [String.toList_append, List.all_append, isUncapital_toString, Bool.and_true]
    decide
  have ends : meetsCased ("-" ++ toString number).toList = false := by
    rw [String.toList_append]
    change meetsCased ('-' :: (toString number).toList) = false
    have hyphen : isCaseIgnorable '-' = false ∧ isCased '-' = false := by decide +kernel
    simp [meetsCased, hyphen]
  rw [numbered, String.append_assoc, lowerCase_append_of_ends small ends, String.append_assoc]

theorem numbered_injective {stem : String} {number other : Nat}
    (same : lowerCase (numbered stem number) = lowerCase (numbered stem other)) :
    number = other := by
  rw [lowerCase_numbered, lowerCase_numbered, String.append_right_inj] at same
  exact toString_injective same

theorem numbered_ne (stem : String) (number : Nat) : numbered stem number ≠ stem := by
  intro same
  have length := congrArg String.length same
  simp only [numbered, String.length_append] at length
  have hyphen : "-".length = 1 := rfl
  omega

section Search

variable {taken : List String} {stem : String}

theorem le_freeNumber (taken : List String) (stem : String) (attempts number : Nat) :
    number ≤ freeNumber taken stem attempts number := by
  induction attempts generalizing number with
  | zero => exact Nat.le_refl number
  | succ attempts ih =>
      rw [freeNumber]
      split
      · exact Nat.le_of_succ_le (ih (number + 1))
      · exact Nat.le_refl number

theorem taken_of_lt_freeNumber {attempts number passed : Nat} (from_number : number ≤ passed)
    (below : passed < freeNumber taken stem attempts number) :
    lowerCase (numbered stem passed) ∈ taken := by
  induction attempts generalizing number with
  | zero => exact absurd (Nat.lt_of_le_of_lt from_number below) (Nat.lt_irrefl number)
  | succ attempts ih =>
      rw [freeNumber] at below
      split at below
      · rename_i known
        rcases Nat.eq_or_lt_of_le from_number with rfl | later
        · exact known
        · exact ih later below
      · exact absurd (Nat.lt_of_le_of_lt from_number below) (Nat.lt_irrefl number)

/-- The search stops before its attempts are used up, or has passed that many taken numbers. -/
theorem freeNumber_free_or_exhausted (taken : List String) (stem : String) (attempts number : Nat) :
    lowerCase (numbered stem (freeNumber taken stem attempts number)) ∉ taken ∨
      freeNumber taken stem attempts number = number + attempts := by
  induction attempts generalizing number with
  | zero => exact .inr rfl
  | succ attempts ih =>
      rw [freeNumber]
      split
      · exact (ih (number + 1)).imp_right fun exhausted => by omega
      · rename_i free
        exact .inl free

/-- Numbers of which each is taken are no more than there are taken stems. -/
theorem le_length_of_taken (taken : List String) (stem : String) (count : Nat)
    (known : ∀ number < count, lowerCase (numbered stem (number + 1)) ∈ taken) :
    count ≤ taken.length := by
  have distinct : ((List.range count).map fun number =>
      lowerCase (numbered stem (number + 1))).Nodup := by
    rw [List.nodup_map_iff_inj_on List.nodup_range]
    intro number _ other _ same
    exact Nat.succ.inj (numbered_injective same)
  have inside : ((List.range count).map fun number => lowerCase (numbered stem (number + 1))) ⊆
      taken := by
    intro lowered found
    obtain ⟨number, below, rfl⟩ := List.mem_map.mp found
    exact known number (List.mem_range.mp below)
  simpa using (distinct.subperm inside).length_le

theorem freeNumber_free (taken : List String) (stem : String) :
    lowerCase (numbered stem (freeNumber taken stem taken.length 1)) ∉ taken := by
  rcases freeNumber_free_or_exhausted taken stem taken.length 1 with free | exhausted
  · exact free
  · intro known
    -- The last number and all before it are taken, one more than there are stems.
    have tooMany := le_length_of_taken taken stem (taken.length + 1) fun number below => by
      rcases Nat.eq_or_lt_of_le (Nat.le_of_lt_succ below) with rfl | before
      · rwa [exhausted, Nat.add_comm] at known
      · have passed : number + 1 < freeNumber taken stem taken.length 1 := by
          rw [exhausted]
          omega
        exact taken_of_lt_freeNumber (Nat.succ_pos number) passed
    exact absurd tooMany (Nat.not_succ_le_self _)

end Search

/-- The stem that is given for `base` when the stems `earlier` have been given, letter case apart:
the base itself if it is free, and otherwise the first of the numbered ones that is. -/
structure Allotted (earlier : List String) (base stem : String) : Prop where
  free : ∀ other ∈ earlier, lowerCase stem ≠ lowerCase other
  unchanged : stem = base ↔ ∀ other ∈ earlier, lowerCase base ≠ lowerCase other
  least : stem ≠ base → ∃ number, 1 ≤ number ∧ stem = numbered base number ∧
    ∀ passed, 1 ≤ passed → passed < number →
      ∃ other ∈ earlier, lowerCase (numbered base passed) = lowerCase other

theorem mem_map_lowerCase {earlier : List String} {stem : String} :
    lowerCase stem ∈ earlier.map lowerCase ↔
      ∃ other ∈ earlier, lowerCase stem = lowerCase other := by
  simp only [List.mem_map, eq_comm]

theorem allotted_availableStem (earlier : List String) (base : String) :
    Allotted earlier base (availableStem (earlier.map lowerCase) base) := by
  unfold availableStem
  split
  · rename_i known
    obtain ⟨other, inside, same⟩ := mem_map_lowerCase.mp known
    constructor
    · intro other inside same
      exact freeNumber_free _ base (mem_map_lowerCase.mpr ⟨other, inside, same⟩)
    · constructor
      · intro unchanged
        exact absurd unchanged (numbered_ne base _)
      · intro free
        exact absurd same (free other inside)
    · intro _
      refine ⟨_, le_freeNumber _ base _ 1, rfl, ?_⟩
      intro passed positive below
      exact mem_map_lowerCase.mp (taken_of_lt_freeNumber positive below)
  · rename_i free
    have apart : ∀ other ∈ earlier, lowerCase base ≠ lowerCase other := by
      intro other inside same
      exact free (mem_map_lowerCase.mpr ⟨other, inside, same⟩)
    exact ⟨apart, ⟨fun _ => apart, fun _ => rfl⟩, fun changed => absurd rfl changed⟩

example : availableStem ["ab", "ab-1", "ab-3"] "aB" = "aB-2" := by
  decide +kernel

end CircuitDiagram
