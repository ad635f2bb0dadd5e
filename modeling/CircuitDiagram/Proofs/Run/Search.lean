import Mathlib.Algebra.GroupWithZero.Nat
import Mathlib.Data.Finset.Card
import Mathlib.Data.Finset.Dedup
import CircuitDiagram.Run
import CircuitDiagram.Proofs.Run.Stem

/-!
The search for a free stem, one candidate after the other. Nothing bounds it but the stems that are
taken: the candidates differ from one another and from the stem itself, letter case apart, so among
as many candidates as there are taken stems one is free. A counter of 32 bits is enough as long as it
can count the taken stems.
-/

namespace CircuitDiagram

open Text (lowerCase)

section Turns

structure Counter (κ : Type) where
  first : κ
  next? : κ → Option κ

def Counter.endless : Counter Nat :=
  ⟨1, fun number => some (number + 1)⟩

/-- Counts in 32 bits with a sign, up to the largest number that they hold. -/
def Counter.word : Counter Int32 :=
  ⟨1, fun number => if number = Int32.maxValue then none else some (number + 1)⟩

/-- Where a search is: before a candidate, behind the one that it has claimed, or out of numbers. -/
inductive StemSearch (κ : Type) where
  | trying (number : κ) (taken : List String)
  | claimed (stem : String) (taken : List String)
  | outOfNumbers
  deriving DecidableEq

variable {κ : Type} [ToString κ]

def StemSearch.turn (counter : Counter κ) (stem : String) : StemSearch κ → StemSearch κ
  | .trying number taken =>
      let candidate := stem ++ "-" ++ toString number
      if lowerCase candidate ∈ taken then
        match counter.next? number with
        | some later => .trying later taken
        | none => .outOfNumbers
      else .claimed candidate (taken ++ [lowerCase candidate])
  | ended => ended

def StemSearch.after (counter : Counter κ) (stem : String) (taken : List String) :
    (turns : Nat) → StemSearch κ
  | 0 => .trying counter.first taken
  | turns + 1 => (after counter stem taken turns).turn counter stem

/-- Up to the limit, the counter goes through the numbers from one on. -/
structure Counter.Counts (counter : Counter κ) (value : Nat → κ) (limit : Nat) : Prop where
  first : counter.first = value 1
  next (number : Nat) (below : number < limit) :
    counter.next? (value number) = some (value (number + 1))
  text (number : Nat) (within : number ≤ limit) : toString (value number) = toString number

theorem counts_endless (limit : Nat) : Counter.endless.Counts (fun number => number) limit where
  first := rfl
  next _ _ := rfl
  text _ _ := rfl

theorem counts_word : Counter.word.Counts Int32.ofNat (2 ^ 31 - 1) where
  first := rfl
  next number below := by
    have notLast : Int32.ofNat number ≠ Int32.maxValue := by
      intro same
      have values := congrArg Int32.toInt same
      rw [Int32.toInt_ofNat_of_lt (by omega)] at values
      have largest : Int32.maxValue.toInt = 2 ^ 31 - 1 := by decide
      omega
    rw [Int32.ofNat_add]
    exact if_neg notLast
  text number within := by
    change toString (Int32.ofNat number).toInt = toString number
    rw [Int32.toInt_ofNat_of_lt (by omega)]
    rfl

end Turns

section Bound

structure LeastFree (taken : List String) (stem : String) (number : Nat) : Prop where
  positive : 1 ≤ number
  free : lowerCase (numbered stem number) ∉ taken
  passed (earlier : Nat) (positive : 1 ≤ earlier) (before : earlier < number) :
    lowerCase (numbered stem earlier) ∈ taken

variable {taken : List String} {stem : String} {number : Nat}

theorem leastFree_freeNumber (taken : List String) (stem : String) :
    LeastFree taken stem (freeNumber taken stem taken.length 1) where
  positive := le_freeNumber taken stem taken.length 1
  free := freeNumber_free taken stem
  passed _ positive before := taken_of_lt_freeNumber positive before

theorem lowerCase_numbered_ne (stem : String) (number : Nat) :
    lowerCase (numbered stem number) ≠ lowerCase stem := by
  rw [lowerCase_numbered]
  exact numbered_ne (lowerCase stem) number

/-- The stem itself is taken too, so with it there are as many taken stems as candidates. -/
theorem LeastFree.le_card (least : LeastFree taken stem number) (known : lowerCase stem ∈ taken) :
    number ≤ taken.toFinset.card := by
  have inside : lowerCase stem ∈ taken.toFinset := List.mem_toFinset.mpr known
  have others := le_length_of_taken (taken.toFinset.erase (lowerCase stem)).toList stem (number - 1)
    fun earlier below => by
      have candidate := least.passed (earlier + 1) (Nat.succ_pos earlier) (by omega)
      rw [Finset.mem_toList, Finset.mem_erase, List.mem_toFinset]
      exact ⟨lowerCase_numbered_ne stem (earlier + 1), candidate⟩
  rw [Finset.length_toList, Finset.card_erase_of_mem inside] at others
  have some := Finset.card_pos.mpr ⟨_, inside⟩
  omega

-- By the turns: each passes a taken candidate, up to the one that claims a free one.
theorem after_eq {κ : Type} [ToString κ] {counter : Counter κ} {value : Nat → κ} {limit : Nat}
    (counts : counter.Counts value limit) (least : LeastFree taken stem number)
    (within : number ≤ limit) (turns : Nat) :
    StemSearch.after counter stem taken turns =
      if turns < number then .trying (value (turns + 1)) taken
      else .claimed (numbered stem number) (taken ++ [lowerCase (numbered stem number)]) := by
  induction turns with
  | zero =>
      have begun : 0 < number := least.positive
      rw [StemSearch.after, counts.first, if_pos begun]
  | succ turns ih =>
      rw [StemSearch.after, ih]
      by_cases before : turns < number
      · have candidate : stem ++ "-" ++ toString (value (turns + 1)) =
            numbered stem (turns + 1) := by
          rw [counts.text (turns + 1) (by omega), numbered]
        rw [if_pos before]
        simp only [StemSearch.turn, candidate]
        by_cases again : turns + 1 < number
        · have known := least.passed (turns + 1) (Nat.succ_pos turns) again
          rw [if_pos known, if_pos again, counts.next (turns + 1) (by omega)]
        · obtain rfl : turns + 1 = number := by omega
          rw [if_neg least.free, if_neg again]
      · rw [if_neg before, if_neg (by omega)]
        rfl

end Bound

/-- Behind a stem that is taken, the search claims the first free candidate, and it has come to it
after as many turns as there are taken stems at the latest. So it does in 32 bits, as long as there
are no more taken stems than these count. -/
theorem search_ends {taken : List String} {stem : String} (known : lowerCase stem ∈ taken) :
    ∃ number,
      let claimed := numbered stem number
      let takenThen := taken ++ [lowerCase claimed]
      LeastFree taken stem number ∧
        number ≤ taken.toFinset.card ∧
        availableStem taken stem = claimed ∧
        (∀ turns, StemSearch.after .endless stem taken turns =
          if turns < number then .trying (turns + 1) taken else .claimed claimed takenThen) ∧
        (taken.toFinset.card < 2 ^ 31 - 1 → ∀ turns, StemSearch.after .word stem taken turns =
          if turns < number then .trying (Int32.ofNat (turns + 1)) taken
          else .claimed claimed takenThen) ∧
        (∀ settings : Settings, ∀ name position circuit rest,
          settings.naming.stem name position = stem →
            settings.jobsFrom position taken ((name, circuit) :: rest) =
              settings.job name stem claimed circuit ::
                settings.jobsFrom (position + 1) takenThen rest) ∧
        ∀ first second, lowerCase (numbered stem first) = lowerCase (numbered stem second) →
          first = second := by
  have least := leastFree_freeNumber taken stem
  have bounded := least.le_card known
  have available : availableStem taken stem =
      numbered stem (freeNumber taken stem taken.length 1) := if_pos known
  refine ⟨_, least, bounded, available, ?_, ?_, ?_, fun _ _ => numbered_injective⟩
  · exact after_eq (counts_endless _) least (Nat.le_refl _)
  · intro few
    exact after_eq counts_word least (by omega)
  · rintro settings name position circuit rest rfl
    rw [Settings.jobsFrom, available]

/-- A stem that ends a word with a capital sigma: in front of a hyphen it still does. -/
theorem sigma_search_ends :
    let taken := ["aς", "aς-2", "aς-1"]
    let settings : Settings := ⟨.key, ⟨true⟩⟩
    (lowerCase "aΣ" ∈ taken ∧ taken.toFinset.card < 2 ^ 31 - 1 ∧
        settings.naming.stem "aΣ" 3 = "aΣ") ∧
      StemSearch.after .word "aΣ" taken 3 = .claimed "aΣ-3" (taken ++ ["aς-3"]) ∧
      (settings.jobsFrom 3 taken [("aΣ", ⟨.empty, .empty⟩)]).map (·.request.stem) = ["aΣ-3"] := by
  intro taken settings
  have known : lowerCase "aΣ" ∈ taken := by decide +kernel
  have few : taken.toFinset.card < 2 ^ 31 - 1 := by decide +kernel
  have wanted : settings.naming.stem "aΣ" 3 = "aΣ" := by decide +kernel
  have third : availableStem taken "aΣ" = numbered "aΣ" 3 := by decide +kernel
  obtain ⟨number, -, -, available, -, counted, jobs, apart⟩ := search_ends known
  obtain rfl : number = 3 := apart number 3 (congrArg lowerCase (available.symm.trans third))
  refine ⟨⟨known, few, wanted⟩, (counted few 3).trans ?_, ?_⟩
  · decide +kernel
  · rw [jobs settings "aΣ" 3 ⟨.empty, .empty⟩ [] wanted]
    rfl

end CircuitDiagram
