import Mathlib.Data.List.Infix
import CircuitDiagram.Proofs.Dot.ReadBack

/-!
Texts inside tables. Escaping one character after the other comes to one pass over the text, which
one pass from left to right takes back. What is escaped holds no bracket, so the brackets of a table
are those of its tags, and they balance with the last of them and no earlier.
-/

namespace CircuitDiagram.Dot

section Entities

/-- Puts the four characters back for what is written for them, from left to right; whatever else
there is stands for itself. -/
def unescapeHtml : List Char → List Char
  | [] => []
  | '&' :: 'a' :: 'm' :: 'p' :: ';' :: rest => '&' :: unescapeHtml rest
  | '&' :: 'l' :: 't' :: ';' :: rest => '<' :: unescapeHtml rest
  | '&' :: 'g' :: 't' :: ';' :: rest => '>' :: unescapeHtml rest
  | '&' :: 'q' :: 'u' :: 'o' :: 't' :: ';' :: rest => '"' :: unescapeHtml rest
  | character :: rest => character :: unescapeHtml rest

theorem unescapeHtml_of_ne {character : Char} (different : character ≠ '&') (rest : List Char) :
    unescapeHtml (character :: rest) = character :: unescapeHtml rest := by
  rw [unescapeHtml] <;> simp [different]

-- Every ampersand that is written begins an entity, so none is taken for a part of the text.
theorem unescapeHtml_escapeCharacter (character : Char) (rest : List Char) :
    unescapeHtml (escapeCharacter character ++ rest) = character :: unescapeHtml rest := by
  rcases escapeCharacter_cases character with
    rfl | rfl | rfl | rfl | ⟨ampersand, _, _, _, itself⟩
  · rfl
  · rfl
  · rfl
  · rfl
  · rw [itself, List.singleton_append, unescapeHtml_of_ne ampersand]

theorem unescapeHtml_escaped (text : List Char) :
    unescapeHtml (text.flatMap escapeCharacter) = text := by
  induction text with
  | nil => rfl
  | cons character text ih => rw [List.flatMap_cons, unescapeHtml_escapeCharacter, ih]

end Entities

section Brackets

/-- No bracket is closed before it is opened, and in the end none is open. -/
structure Balanced (content : List Char) : Prop where
  covered (front back : List Char) (split : content = front ++ back) :
    front.count '>' ≤ front.count '<'
  settled : content.count '<' = content.count '>'

theorem balanced_iff_inits {content : List Char} :
    Balanced content ↔ (∀ front ∈ content.inits, front.count '>' ≤ front.count '<') ∧
      content.count '<' = content.count '>' := by
  constructor
  · rintro ⟨covered, settled⟩
    refine ⟨fun front first => ?_, settled⟩
    obtain ⟨back, split⟩ := (List.mem_inits front content).mp first
    exact covered front back split.symm
  · rintro ⟨covered, settled⟩
    refine ⟨fun front back split => ?_, settled⟩
    exact covered front ((List.mem_inits front content).mpr ⟨back, split.symm⟩)

instance (content : List Char) : Decidable (Balanced content) :=
  decidable_of_iff _ balanced_iff_inits.symm

variable {content other front back : List Char}

theorem Balanced.append (first : Balanced content) (second : Balanced other) :
    Balanced (content ++ other) where
  covered front back split := by
    rcases List.append_eq_append_iff.mp split with ⟨between, rfl, rest⟩ | ⟨between, rest, -⟩
    · have inside := second.covered between back rest
      have before := first.settled
      rw [List.count_append, List.count_append]
      omega
    · exact first.covered front between rest
  settled := by rw [List.count_append, List.count_append, first.settled, second.settled]

theorem balanced_of_plain (plain : ∀ character ∈ content, character ≠ '<' ∧ character ≠ '>') :
    Balanced content := by
  have noOpening (front : List Char) (inside : front ⊆ content) : front.count '>' = 0 := by
    rw [List.count_eq_zero]
    exact fun bracket => (plain '>' (inside bracket)).2 rfl
  have noClosing : content.count '<' = 0 := by
    rw [List.count_eq_zero]
    exact fun bracket => (plain '<' bracket).1 rfl
  constructor
  · rintro front back rfl
    rw [noOpening front (List.subset_append_left front back)]
    exact Nat.zero_le _
  · rw [noClosing, noOpening content (List.Subset.refl content)]

/-- Between a pair of brackets, what is balanced leaves the first of them open up to the second. -/
theorem Balanced.enclosed (balanced : Balanced content)
    (split : ['<'] ++ content ++ ['>'] = front ++ back) (begun : front ≠ []) :
    front.count '>' ≤ front.count '<' ∧ (front.count '<' = front.count '>' ↔ back = []) := by
  cases front with
  | nil => exact absurd rfl begun
  | cons first inner =>
      rw [List.append_assoc, List.singleton_append, List.cons_append, List.cons.injEq] at split
      obtain ⟨rfl, split⟩ := split
      rcases List.eq_nil_or_concat back with rfl | ⟨middle, last, rfl⟩
      · rw [List.append_nil] at split
        subst split
        simp [balanced.settled]
      · rw [List.concat_eq_append, ← List.append_assoc] at split
        have inside := balanced.covered inner middle (List.append_inj_left' split rfl)
        simp only [List.count_cons_self, List.count_cons_of_ne (by decide : '<' ≠ '>')]
        refine ⟨by omega, ?_⟩
        constructor
        · intro same
          omega
        · intro ended
          simp at ended

theorem balanced_escaped (text : List Char) : Balanced (text.flatMap escapeCharacter) :=
  balanced_of_plain fun character inside =>
    ⟨(plain_of_mem_escaped character inside).1, (plain_of_mem_escaped character inside).2.1⟩

theorem balanced_tableContent (id label : String) : Balanced (tableContent id label) := by
  have head : Balanced tableHead := by decide +kernel
  have middle : Balanced tableMiddle := by decide +kernel
  have ending : Balanced tableEnd := by decide +kernel
  have rows := ((head.append (balanced_escaped id.toList)).append middle).append
    (balanced_escaped label.toList)
  exact rows.append ending

end Brackets

/-- Escaping goes through a text once, and can be taken back in one pass, whatever the text looks
like. It leaves no bracket, so that of a table no part but the whole has its brackets closed. -/
theorem escapeHtml_once :
    (∀ text, escapeHtml text = String.ofList (text.toList.flatMap escapeCharacter) ∧
      String.ofList (unescapeHtml (escapeHtml text).toList) = text ∧
      ∀ character ∈ (escapeHtml text).toList,
        character ≠ '<' ∧ character ≠ '>' ∧ character ≠ '"') ∧
      ∀ id label front back, (table id label).toList = front ++ back → front ≠ [] →
        front.count '>' ≤ front.count '<' ∧ (front.count '<' = front.count '>' ↔ back = []) := by
  constructor
  · intro text
    have once := toList_escapeHtml text
    refine ⟨?_, ?_, ?_⟩
    · rw [← once, String.ofList_toList]
    · rw [once, unescapeHtml_escaped, String.ofList_toList]
    · rw [once]
      exact plain_of_mem_escaped
  · intro id label front back split begun
    rw [toList_table] at split
    exact (balanced_tableContent id label).enclosed split begun

/-- A table with a text that looks like a tag and one that looks like an entity, cut behind the
first of them. -/
theorem taglike_escapeHtml_once :
    let front := "<<TABLE><TR><TD>&lt;/TD&gt;".toList
    let back := "</TD></TR><TR><TD><B>&amp;gt;</B></TD></TR></TABLE>>".toList
    ((table "</TD>" "&gt;").toList = front ++ back ∧ front ≠ []) ∧
      front.count '<' ≠ front.count '>' := by
  intro front back
  have split : (table "</TD>" "&gt;").toList = front ++ back := by decide +kernel
  have begun : front ≠ [] := by decide +kernel
  refine ⟨⟨split, begun⟩, ?_⟩
  intro same
  have ended := (escapeHtml_once.2 "</TD>" "&gt;" front back split begun).2.mp same
  exact absurd ended (by decide +kernel)

end CircuitDiagram.Dot
