import CircuitDiagram.Proofs.Document.Reading

/-!
The texts that are read as documents. Reading in one pass accepts just the texts that the grammar
makes one value of, if that value has the shape of a document, and gives the document of that
shape.
-/

namespace CircuitDiagram

open Json

variable {α : Type}

theorem unblanked_eq_nil {chars : List Char} : unblanked chars = [] ↔ Blanks chars [] := by
  constructor
  · intro none
    rw [← none]
    exact blanks_unblanked chars
  · intro blanks
    rw [unblanked_of_blanks blanks]
    rfl

/-- A whole text is read if nothing but blanks is left behind the value. -/
theorem readAll_eq_ok {reader : Reader α} {shape : Tree → Option α}
    (exact : Exact reader (Shaped shape)) (chars : List Char) (value : α) :
    readAll reader (ofChars chars) = .ok value ↔
      ∃ behind, Shaped shape value chars behind ∧ Blanks behind [] := by
  constructor
  · intro read
    unfold readAll at read
    split at read
    · contradiction
    · rename_i found
      obtain ⟨behind, rest, shaped⟩ := exact.sound found
      rw [rest, skipBlanks_ofChars] at read
      split at read
      · rename_i none
        cases read
        exact ⟨behind, shaped, unblanked_eq_nil.mp (List.map_eq_nil_iff.mp none)⟩
      · contradiction
  · rintro ⟨behind, shaped, blanks⟩
    obtain ⟨shorter, read⟩ := exact.complete shaped trivial
    have none : skipBlanks (ofChars behind) = [] := by
      rw [skipBlanks_ofChars, unblanked_eq_nil.mpr blanks]
      rfl
    simp only [readAll, read, none]

theorem decode_eq_ok {reader : Reader α} {delivery : Delivery} {source : Source} {value : α} :
    decode reader delivery source = .ok value ↔ readAll reader source = .ok value := by
  unfold decode
  cases readAll reader source <;> simp

/-- However it is delivered, a text is read if it is one value, blanks around it apart, and that
value has the shape wanted. -/
theorem decode_eq_ok_iff {reader : Reader α} {shape : Tree → Option α}
    (exact : Exact reader (Shaped shape)) (delivery : Delivery) (text : String) (value : α) :
    decode reader delivery (Symbol.ofString text) = .ok value ↔
      ∃ tree, IsText text tree ∧ shape tree = some value := by
  have source : Symbol.ofString text = ofChars text.toList := rfl
  rw [decode_eq_ok, source, readAll_eq_ok exact]
  constructor
  · rintro ⟨behind, ⟨start, tree, blanks, spelled, means⟩, blanksBehind⟩
    exact ⟨tree, ⟨start, behind, blanks, spelled, blanksBehind⟩, means⟩
  · rintro ⟨tree, ⟨start, behind, blanks, spelled, blanksBehind⟩, means⟩
    exact ⟨behind, ⟨start, tree, blanks, spelled, means⟩, blanksBehind⟩

/-- A text is read as a document just if, blanks around it apart, it is one value of the grammar
and that value has the shape of the document. -/
theorem Document.parse_eq_ok_iff (text : String) (document : Document) :
    Document.parse text = .ok document ↔
      ∃ tree, IsText text tree ∧ shapeDocument tree = some document := by
  rw [Document.parse]
  exact decode_eq_ok_iff readDocument_exact .whole text document

end CircuitDiagram
