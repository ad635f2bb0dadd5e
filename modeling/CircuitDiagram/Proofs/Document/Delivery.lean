import CircuitDiagram.Failure
import CircuitDiagram.Proofs.Document.InputLanguage
import CircuitDiagram.Proofs.Text.Symbol

/-!
Texts that are read as they come. The bytes of a text are read as the text is, and where the one is
refused so is the other, for the same cause. All that the way of delivery can change is the place of
a complaint: a byte that was only looked at had to be fetched and counts as read.

That one reader stands for both ways of delivery is an assumption of the model. What is left to show
is what the two entry points make of it: one has the characters, the other bytes that it has to cut
into characters first.
-/

namespace CircuitDiagram

namespace Json

variable {α : Type}

/-- The places that one byte more may lead to, or none. -/
inductive Place.Reaches (place : Place) : Place → Prop where
  | here : Reaches place place
  | column : Reaches place ⟨place.line, place.column + 1⟩
  | line : Reaches place ⟨place.line + 1, 0⟩

/-- Two complaints about one text, which differ in their place by a byte at most. -/
structure Complaint.Echoes (complaint other : Complaint) : Prop where
  cause : other.cause = complaint.cause
  place : Option.Rel Place.Reaches complaint.place other.place

theorem width_positive (symbol : Symbol) : 1 ≤ symbol.width := by
  cases symbol with
  | scalar character => exact Char.utf8Size_pos character
  | broken first more => exact Nat.le_add_left 1 more.length

theorem reaches_step (place : Place) {symbol : Symbol} (single : symbol.width ≤ 1) :
    place.Reaches (place.step symbol) := by
  have width : symbol.width = 1 := Nat.le_antisymm single (width_positive symbol)
  unfold Place.step
  split
  · exact .line
  · rw [width]
    exact .column

theorem reaches_advance (place : Place) (source : Source) :
    place.Reaches (place.advance 1 source) := by
  cases source with
  | nil => exact .here
  | cons symbol rest =>
      rw [Place.advance]
      split
      · rename_i single
        -- A symbol of one byte is all that is passed.
        rw [Nat.sub_eq_zero_of_le (width_positive symbol), Place.advance]
        exact reaches_step place single
      · exact .column

/-- How the input is delivered changes the place of a fault by a byte at most. -/
theorem echoes_report (fault : Fault) (input : Source) :
    (fault.report .whole input).Echoes (fault.report .stream input) where
  cause := rfl
  place := by
    unfold Fault.report
    split
    · apply Option.Rel.some
      cases fault.reach with
      | bytes count => exact .here
      | lookahead =>
          rw [Reach.count, Reach.count, Place.advance]
          exact reaches_advance _ fault.unread
    · exact .none

/-- Whatever is read, the way of delivery does not decide whether it is. -/
theorem decode_cases (reader : Reader α) (input : Source) :
    (∃ value, decode reader .whole input = .ok value ∧ decode reader .stream input = .ok value) ∨
      ∃ complaint other, decode reader .whole input = .error complaint ∧
        decode reader .stream input = .error other ∧ complaint.Echoes other := by
  unfold decode
  cases readAll reader input with
  | ok value => exact .inl ⟨value, rfl, rfl⟩
  | error fault => exact .inr ⟨_, _, rfl, rfl, echoes_report fault input⟩

end Json

namespace Document

open Json

theorem mapError_eq_ok {ε ε' α : Type} {change : ε → ε'} {result : Except ε α} {value : α} :
    result.mapError change = .ok value ↔ result = .ok value := by
  cases result <;> simp [Except.mapError]

theorem parse_cases (text : String) :
    (∃ document, parse text = .ok document ∧ parseBytes (encodeText text) = .ok document) ∨
      ∃ complaint other, parse text = .error complaint ∧
        parseBytes (encodeText text) = .error other ∧ complaint.Echoes other := by
  rw [parseBytes, Symbol.segment_encodeText]
  exact decode_cases readDocument (Symbol.ofString text)

theorem parseBytes_eq_ok_iff (text : String) (document : Document) :
    parseBytes (encodeText text) = .ok document ↔ parse text = .ok document := by
  rcases parse_cases text with
    ⟨read, readWhole, readStream⟩ | ⟨complaint, other, refused, refusedStream, -⟩
  · rw [readWhole, readStream]
  · simp only [refused, refusedStream, reduceCtorEq]

/-- The bytes of a text are read as a document just if the text is, and as the same one, which is
that of the shape of the one value that the text spells. Where either is refused both are malformed
for the same cause, at places that are a byte apart at most. -/
theorem parseBytes_agrees (text : String) :
    let whole := (parse text).mapError Failure.malformedInput
    let stream := (parseBytes (encodeText text)).mapError Failure.malformedInput
    (∀ document, stream = .ok document ↔ whole = .ok document) ∧
      (∀ document, stream = .ok document ↔
        ∃ tree, IsText text tree ∧ shapeDocument tree = some document) ∧
      ∀ failure, whole = .error failure ∨ stream = .error failure →
        ∃ complaint other, whole = .error (.malformedInput complaint) ∧
          stream = .error (.malformedInput other) ∧ complaint.Echoes other := by
  intro whole stream
  refine ⟨fun document => ?_, fun document => ?_, fun failure failed => ?_⟩
  · rw [mapError_eq_ok, mapError_eq_ok, parseBytes_eq_ok_iff]
  · rw [mapError_eq_ok, parseBytes, Symbol.segment_encodeText]
    exact decode_eq_ok_iff readDocument_exact .stream text document
  · rcases parse_cases text with
      ⟨read, readWhole, readStream⟩ | ⟨complaint, other, refused, refusedStream, echoes⟩
    · -- Where the text is read, neither has failed.
      have readings : whole = .ok read ∧ stream = .ok read :=
        ⟨mapError_eq_ok.mpr readWhole, mapError_eq_ok.mpr readStream⟩
      simp only [readings, reduceCtorEq, or_self] at failed
    · refine ⟨complaint, other, ?_, ?_, echoes⟩
      · simp only [whole, refused, Except.mapError]
      · simp only [stream, refusedStream, Except.mapError]

end Document

end CircuitDiagram
