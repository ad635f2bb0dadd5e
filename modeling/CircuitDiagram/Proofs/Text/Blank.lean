import CircuitDiagram.Text.Characters
import Mathlib.Data.List.Basic
import Mathlib.Data.List.TakeWhile

/-!
Texts and what is left of them without the blanks around. There are words without a blank at either
end, nothing but blanks is left out in front of them and behind, and no others are like that.
-/

namespace CircuitDiagram.Text

variable {text words : String}

/-- Words without blanks at either end, with nothing but blanks around them. -/
structure Trims (text words : String) : Prop where
  around : ∃ front behind, text.toList = front ++ words.toList ++ behind ∧
    (∀ character ∈ front, isBlank character = true) ∧
    ∀ character ∈ behind, isBlank character = true
  first : ∀ character ∈ words.toList.head?, isBlank character = false
  last : ∀ character ∈ words.toList.getLast?, isBlank character = false

theorem not_isBlank_of_head_dropWhile {characters : List Char} {character : Char}
    (first : character ∈ (characters.dropWhile isBlank).head?) : isBlank character = false := by
  have settled := List.head?_dropWhile_not isBlank characters
  rw [Option.mem_def] at first
  rwa [first] at settled

theorem trims_trimmed (text : String) : Trims text (trimmed text) := by
  let rest := text.toList.dropWhile isBlank
  let kept := rest.reverse.dropWhile isBlank
  have words : (trimmed text).toList = kept.reverse := String.toList_ofList
  have parts : rest = kept.reverse ++ (rest.reverse.takeWhile isBlank).reverse := by
    rw [← List.reverse_append, List.takeWhile_append_dropWhile, List.reverse_reverse]
  refine ⟨⟨text.toList.takeWhile isBlank, (rest.reverse.takeWhile isBlank).reverse, ?_, ?_, ?_⟩,
    ?_, ?_⟩
  · rw [words, List.append_assoc, ← parts, List.takeWhile_append_dropWhile]
  · exact fun character inside => List.mem_takeWhile_imp inside
  · intro character inside
    exact List.mem_takeWhile_imp (List.mem_reverse.mp inside)
  · intro character first
    -- What begins the words begins the text behind the blanks in front.
    have begins : character ∈ rest.head? := by
      rw [words] at first
      rw [parts, List.head?_append, Option.mem_def.mp first]
      rfl
    exact not_isBlank_of_head_dropWhile begins
  · intro character last
    rw [words, List.getLast?_reverse] at last
    exact not_isBlank_of_head_dropWhile last

theorem dropWhile_append (blanks : List Char) {rest : List Char}
    (blank : ∀ character ∈ blanks, isBlank character = true)
    (first : ∀ character ∈ rest.head?, isBlank character = false) :
    (blanks ++ rest).dropWhile isBlank = rest := by
  rw [List.dropWhile_append_of_pos blank]
  cases rest with
  | nil => rfl
  | cons character rest => rw [List.dropWhile_cons, first character rfl, if_neg Bool.false_ne_true]

/-- There is no other way to leave the blanks out. -/
theorem Trims.eq_trimmed (trims : Trims text words) : words = trimmed text := by
  obtain ⟨⟨front, behind, parts, blankFront, blankBehind⟩, first, last⟩ := trims
  rw [trimmed, parts, List.append_assoc, List.dropWhile_append_of_pos blankFront]
  by_cases empty : words = ""
  · subst empty
    rw [String.toList_empty, List.nil_append, List.dropWhile_eq_nil_iff.mpr blankBehind]
    rfl
  · have filled : words.toList ≠ [] := mt String.toList_eq_nil_iff.mp empty
    have stays : (words.toList ++ behind).dropWhile isBlank = words.toList ++ behind := by
      apply dropWhile_append [] nofun
      intro character begins
      have head : (words.toList ++ behind).head? = words.toList.head? :=
        List.head?_append_of_ne_nil _ filled
      exact first character (head ▸ begins)
    have ends : (behind.reverse ++ words.toList.reverse).dropWhile isBlank =
        words.toList.reverse := by
      apply dropWhile_append
      · intro character inside
        exact blankBehind character (List.mem_reverse.mp inside)
      · intro character ending
        rw [List.head?_reverse] at ending
        exact last character ending
    rw [stays, List.reverse_append, ends, List.reverse_reverse, String.ofList_toList]

theorem trims_iff : Trims text words ↔ words = trimmed text := by
  constructor
  · exact Trims.eq_trimmed
  · rintro rfl
    exact trims_trimmed text

end CircuitDiagram.Text
