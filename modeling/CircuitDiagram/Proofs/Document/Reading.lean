import CircuitDiagram.Document.Reading
import CircuitDiagram.Proofs.Document.Members

/-!
Each reader of a part of a document is exact for the shape of that part. What reads an object and
what reads the list in its place are exact for the same shape.
-/

namespace CircuitDiagram

open Json

variable {α β σ : Type}

/-- A reader with something made of what it reads. -/
def changed (change : α → β) (reader : Reader α) : Reader β := fun source =>
  match reader source with
  | .error fault => .error fault
  | .ok taken => .ok (taken.map change)

theorem changed_exact {reader : Reader α} {other : Reader β} {shape : Tree → Option α}
    (exact : Exact reader (Shaped shape)) (change : α → β)
    (reads : ∀ source, other source = changed change reader source) :
    Exact other (Shaped fun tree => (shape tree).map change) where
  sound {chars taken} read := by
    rw [reads, changed] at read
    split at read
    · contradiction
    · rename_i inner found
      obtain ⟨left, rest, start, tree, blanks, spelled, means⟩ := exact.sound found
      cases read
      exact ⟨left, rest, start, tree, blanks, spelled, by simp [means, Taken.map]⟩
  complete {chars left value} spelled follow := by
    obtain ⟨start, tree, blanks, spelled, means⟩ := spelled
    obtain ⟨inner, found, rfl⟩ := Option.map_eq_some_iff.mp means
    obtain ⟨shorter, read⟩ := exact.complete ⟨start, tree, blanks, spelled, found⟩ follow
    exact ⟨shorter, by simp [reads, changed, read, Taken.map]⟩

section Members

variable {value : Reader α} {shape : Tree → Option α}

theorem readEntry_exact (exact : Exact value (Shaped shape)) (table : Table α) (name : String) :
    Exact (readEntry value table name)
      (MemberShaped fun tree => (shape tree).map (table.set name)) :=
  member_exact exact (table.set name) fun _ => rfl

/-- Any value may stand where one is passed over. -/
theorem readOther_exact (state : σ) :
    ExactBefore Delimited (readOther state) (MemberShaped fun _ => some state) := by
  -- A value that is passed over may be a number, so it has to be delimited. A member always is.
  have anything : ExactBefore Delimited skipValue (Shaped fun _ => some ()) := by
    constructor
    · intro chars taken read
      obtain ⟨left, rest, start, tree, blanks, spelled⟩ := skipValue_exact.sound read
      exact ⟨left, rest, start, tree, blanks, spelled, rfl⟩
    · rintro chars left _ ⟨start, tree, blanks, spelled, -⟩ delimited
      exact skipValue_exact.complete ⟨start, tree, blanks, spelled⟩ delimited
  apply member_exact anything (fun _ => state)
  intro source
  unfold readOther
  cases readColon source with
  | error fault => rfl
  | ok taken =>
      dsimp only
      cases skipValue taken.rest <;> rfl

-- A field that comes again fails whatever its value is, before that is read.
theorem readField_exact (field : Field) (exact : Exact value (Shaped shape)) (earlier : Option α)
    (store : α → β) :
    Exact (readField field value earlier store)
      (MemberShaped fun tree => if earlier.isSome then none else (shape tree).map store) := by
  cases earlier with
  | some _ =>
      constructor
      · intro chars taken read
        cases read
      · rintro chars left read ⟨behind, blanks, start, tree, _, _, means⟩
        cases means
  | none => exact member_exact exact store fun _ => rfl

end Members

section Objects

variable {value : Reader α} {other : Reader β} {shape : Tree → Option α}
  {otherShape : Tree → Option β}

theorem readTable_exact (exact : Exact value (Shaped shape)) :
    Exact (readTable value) (Shaped (shapeTable shape)) := by
  have members : Exact (readObject (readEntry value) .empty .ok)
      (ShapedBehind '{' (shapeTable shape)) := by
    apply readObject_exact fun table key => (readEntry_exact exact table key).before _
    intro members table
    simp [addMembers_set]
  apply readShape_exact members
  intro tree table character chars rest means spelled
  cases tree with
  | object => cases spelled <;> rfl
  | _ => cases means

theorem readOneField_exact (field : Field) (exact : Exact value (Shaped shape))
    {whole : Tree → Option α}
    (only : ∀ members, whole (.object members) =
      (named? members).bind fun fields => (sole? field.key fields).bind shape) :
    Exact (readOneField field value) (ShapedBehind '{' whole) := by
  apply @readObject_exact _ _ _ (addField field.key shape)
  · intro state key
    unfold addField
    split
    · exact (readField_exact field exact state some).before _
    · exact readOther_exact state
  · intro members result
    rw [only, addMembers_eq_foldlM]
    cases named? members with
    | none => simp
    | some fields =>
        simp only [Option.bind_some, ← foldlM_addField_none]
        constructor
        · intro added
          exact ⟨some result, added, rfl⟩
        · rintro ⟨final, added, finished⟩
          cases final with
          | none => cases finished
          | some read =>
              cases finished
              exact added

theorem readTwoFields_exact {first second : Field} (different : first.key ≠ second.key)
    (exact : Exact value (Shaped shape)) (otherExact : Exact other (Shaped otherShape)) :
    Exact (readTwoFields first second value other)
      (ShapedBehind '{' (shapeRecord first.key second.key shape otherShape)) := by
  apply @readObject_exact _ _ _ (addEither first.key second.key shape otherShape)
  · intro state key
    unfold addEither
    split
    · exact (readField_exact first exact state.1 fun read => (some read, state.2)).before _
    · split
      · exact (readField_exact second otherExact state.2 fun read => (state.1, some read)).before _
      · exact readOther_exact state
  · intro members result
    rw [shapeRecord_object, addMembers_eq_foldlM]
    simp only [Option.bind_eq_some_iff, foldlM_addEither different]
    constructor
    · rintro ⟨fields, named, left, right⟩
      rw [← Option.bind_eq_some_iff, ← foldlM_addField_none] at left right
      exact ⟨(some result.1, some result.2), ⟨fields, named, left, right⟩, rfl⟩
    · rintro ⟨⟨left, right⟩, ⟨fields, named, leftAdded, rightAdded⟩, finished⟩
      cases left with
      | none => cases finished
      | some left =>
          cases right with
          | none => cases finished
          | some right =>
              cases finished
              rw [foldlM_addField_none, Option.bind_eq_some_iff] at leftAdded rightAdded
              exact ⟨fields, named, leftAdded, rightAdded⟩

/-- What is made of a list is made of it as a list, whatever else has the shape. -/
theorem shapedBehind_bracket {whole inside : Tree → Option α} {result : α}
    {chars rest : List Char} (same : ∀ trees, whole (.list trees) = inside (.list trees)) :
    ShapedBehind '[' inside result chars rest ↔ ShapedBehind '[' whole result chars rest := by
  constructor
  · rintro ⟨tree, spelled, means⟩
    obtain ⟨trees, rfl⟩ := list_of_bracket spelled
    exact ⟨.list trees, spelled, (same trees).trans means⟩
  · rintro ⟨tree, spelled, means⟩
    obtain ⟨trees, rfl⟩ := list_of_bracket spelled
    exact ⟨.list trees, spelled, (same trees).symm.trans means⟩

theorem readRecord_exact (wanted : Wanted) (first second : Field)
    (different : first.key ≠ second.key) (exact : Exact value (Shaped shape))
    (otherExact : Exact other (Shaped otherShape)) :
    Exact (readRecord wanted first second value other)
      (Shaped (shapeRecord first.key second.key shape otherShape)) := by
  have list := (readPair_exact wanted exact otherExact).of_iff fun result chars rest =>
    @shapedBehind_bracket _ (shapeRecord first.key second.key shape otherShape) _ result chars rest
      fun _ => rfl
  apply either_exact (fun _ => rfl) (readTwoFields_exact different exact otherExact) list
  intro tree result character chars rest means spelled
  cases tree with
  | object => cases spelled <;> exact .inl rfl
  | list => cases spelled <;> exact .inr rfl
  | _ => cases means

end Objects

section Kinds

theorem readOnlyKey_exact :
    Exact readOnlyKey fun name chars rest =>
      ∃ marks quoted, Blanks chars ('"' :: quoted) ∧ Marks marks quoted rest ∧
        text? marks = some name where
  sound {chars taken} read := by
    unfold readOnlyKey at read
    obtain ⟨character, behind, found, blanks, read⟩ := onFirst_sound read
    split at read
    · rename_i quote
      obtain rfl := (isCharacter_scalar _ _).mp quote
      obtain ⟨_, read⟩ := widen_eq_ok.mp read
      obtain ⟨left, rest, marks, spelled, means⟩ := readText_exact.sound read
      exact ⟨left, rest, marks, behind, blanks, spelled, means⟩
    · split at read <;> contradiction
  complete {chars left name} spelled _ := by
    obtain ⟨marks, quoted, blanks, spelled, means⟩ := spelled
    have found := skipBlanks_of_blanks blanks rfl
    obtain ⟨shorter, read⟩ := readText_exact.complete ⟨marks, spelled, means⟩ trivial
    refine ⟨length_lt_trans (length_lt_of_skipBlanks found) shorter, ?_⟩
    rw [readOnlyKey, onFirst_eq found]
    exact widen_eq_ok.mpr ⟨shorter, read⟩

def shapeNull : Tree → Option Unit
  | .null => some ()
  | _ => none

theorem readNull_exact : Exact readNull (Shaped shapeNull) := by
  apply readShape_exact
  · constructor
    · intro chars taken read
      split at read
      · contradiction
      · rename_i literal
        obtain ⟨left, rfl, rfl⟩ := readLiteral_sound literal
        cases read
        exact ⟨left, rfl, .null, .null left, rfl⟩
    · rintro chars left _ ⟨tree, spelled, means⟩ -
      cases tree with
      | null =>
          cases spelled
          have literal := readLiteral_complete ['u', 'l', 'l'] left
          refine ⟨length_lt_of_readLiteral literal, ?_⟩
          split
          · rename_i failed
            cases literal.symm.trans failed
          · rename_i found
            cases literal.symm.trans found
            rfl
      | _ => cases means
  · intro tree _ character chars rest means spelled
    cases tree with
    | null => cases spelled; rfl
    | _ => cases means

/-- What a variant's name is followed by: nothing for a boundary, a gate's name else. -/
def shapeContent : Option Kind → Tree → Option Kind
  | some kind, tree => (shapeNull tree).map fun _ => kind
  | none, tree => (shapeText tree).map .gate

theorem readContent_exact (content : Option Kind) :
    Exact (readContent content) (Shaped (shapeContent content)) := by
  cases content with
  | some kind =>
      apply changed_exact readNull_exact fun _ => kind
      intro source
      simp only [readContent, changed]
      cases readNull source <;> rfl
  | none =>
      apply changed_exact (readString_exact .text) Kind.gate
      intro source
      simp only [readContent, changed]
      cases readString .text source <;> rfl

theorem variant_eq_boundary {name : String} {kind : Kind} :
    variant? name = some (some kind) ↔ boundary? name = some kind := by
  unfold variant? boundary?
  simp only [Side.name]
  by_cases input : name = "Input"
  · simp [input]
  · by_cases output : name = "Output"
    · simp [output]
    · by_cases internal : name = "Internal" <;> simp [input, output, internal]

theorem variant_eq_gate {name : String} : variant? name = some none ↔ name = "Internal" := by
  unfold variant?
  simp only [Side.name]
  by_cases input : name = "Input"
  · simp [input]
  · by_cases output : name = "Output"
    · simp [output]
    · by_cases internal : name = "Internal" <;> simp [input, output, internal]

theorem shapeKind_text {marks : List Mark} {kind : Kind} :
    shapeKind (.text marks) = some kind ↔
      ∃ name, text? marks = some name ∧ variant? name = some (some kind) := by
  simp only [shapeKind, Option.bind_eq_some_iff, variant_eq_boundary]

theorem shapeKind_object {marks : List Mark} {tree : Tree} {kind : Kind} :
    shapeKind (.object [(marks, tree)]) = some kind ↔
      ∃ name content, text? marks = some name ∧ variant? name = some content ∧
        shapeContent content tree = some kind := by
  constructor
  · intro means
    cases tree with
    | null =>
        obtain ⟨name, named, boundary⟩ := Option.bind_eq_some_iff.mp means
        exact ⟨name, some kind, named, variant_eq_boundary.mpr boundary, rfl⟩
    | text label =>
        simp only [shapeKind] at means
        split at means
        · rename_i internal
          exact ⟨"Internal", none, internal, variant_eq_gate.mpr rfl, means⟩
        · contradiction
    | _ => cases means
  · rintro ⟨name, content, named, variant, means⟩
    cases content with
    | some boundary =>
        obtain ⟨_, isNull, rfl⟩ := Option.map_eq_some_iff.mp means
        cases tree with
        | null =>
            simp only [shapeKind, named, Option.bind_some]
            exact variant_eq_boundary.mp variant
        | _ => cases isNull
    | none =>
        obtain rfl := variant_eq_gate.mp variant
        obtain ⟨label, isText, rfl⟩ := Option.map_eq_some_iff.mp means
        cases tree with
        | text label =>
            simp only [shapeKind, named, if_true]
            exact means
        | _ => cases isText

theorem single_of_shapeKind {members : List (List Mark × Tree)} {kind : Kind}
    (means : shapeKind (.object members) = some kind) :
    ∃ marks tree, members = [(marks, tree)] := by
  unfold shapeKind at means
  split at means
  · contradiction
  · rename_i same
    cases same
    exact ⟨_, _, rfl⟩
  · rename_i same
    cases same
    exact ⟨_, _, rfl⟩
  · contradiction

theorem readBareKind_exact : Exact readBareKind (ShapedBehind '"' shapeKind) where
  sound {chars taken} read := by
    unfold readBareKind at read
    split at read
    · contradiction
    · rename_i name _ _ found
      obtain ⟨left, rfl, marks, spelled, means⟩ := readText_exact.sound found
      split at read
      · contradiction
      · contradiction
      · rename_i variant
        cases read
        exact ⟨left, rfl, .text marks, .text spelled, shapeKind_text.mpr ⟨name, means, variant⟩⟩
  complete {chars left kind} shaped _ := by
    obtain ⟨tree, spelled, means⟩ := shaped
    obtain ⟨marks, rfl, inside⟩ := text_of_quote spelled
    obtain ⟨name, named, variant⟩ := shapeKind_text.mp means
    obtain ⟨shorter, read⟩ := readText_exact.complete ⟨marks, inside, named⟩ trivial
    exact ⟨shorter, by simp only [readBareKind, read, variant]⟩

theorem readTaggedKind_exact : Exact readTaggedKind (ShapedBehind '{' shapeKind) where
  sound {chars taken} read := by
    unfold readTaggedKind at read
    split at read
    · contradiction
    · rename_i name _ _ key
      obtain ⟨behindName, rfl, marks, quoted, quote, nameSpelled, named⟩ :=
        readOnlyKey_exact.sound key
      split at read
      · contradiction
      · rename_i content variant
        split at read
        · contradiction
        · rename_i colonRead
          obtain ⟨behindColon, rfl, colon⟩ := readColon_exact.sound colonRead
          split at read
          · contradiction
          · rename_i contentRead
            obtain ⟨behind, rfl, start, tree, blanks, spelled, means⟩ :=
              (readContent_exact content).sound contentRead
            obtain ⟨character, left, found, close, read⟩ := onFirst_sound read
            split at read
            · rename_i brace
              obtain rfl := (isCharacter_scalar _ _).mp brace
              cases read
              exact ⟨left, rfl, .object [(marks, tree)],
                .object (.member quote nameSpelled colon blanks spelled (.noMember close)),
                shapeKind_object.mpr ⟨name, content, named, variant, means⟩⟩
            · contradiction
  complete {chars left kind} shaped _ := by
    obtain ⟨whole, spelled, means⟩ := shaped
    obtain ⟨members, rfl⟩ := object_of_brace spelled
    obtain ⟨marks, tree, rfl⟩ := single_of_shapeKind means
    obtain ⟨name, content, named, variant, means⟩ := shapeKind_object.mp means
    obtain ⟨quoted, behindName, behindColon, start, behind, quote, nameSpelled, colon, blanks,
      value, others⟩ := @membersFrom_cons true _ _ _ _ _ spelled
    obtain ⟨shorter, key⟩ :=
      readOnlyKey_exact.complete ⟨marks, quoted, quote, nameSpelled, named⟩ trivial
    obtain ⟨shorterColon, colonRead⟩ : ∃ shorter, readColon (ofChars behindName) =
      .ok ⟨(), ofChars behindColon, shorter⟩ := readColon_exact.complete colon trivial
    obtain ⟨shorterKind, contentRead⟩ :=
      (readContent_exact content).complete ⟨start, tree, blanks, value, means⟩ trivial
    have found := skipBlanks_of_blanks (membersFrom_nil others) rfl
    refine ⟨length_lt_trans_both shorter (length_lt_trans shorterColon shorterKind)
      (length_lt_of_skipBlanks found), ?_⟩
    simp only [readTaggedKind, key, variant, colonRead, contentRead]
    rw [onFirst_eq found]
    rfl

-- An object and a string begin with different characters, so both readers have the whole shape.
theorem readKind_exact : Exact readKind (Shaped shapeKind) := by
  refine @either_exact _ _ readKind (fun source => .upon .noValue source) '{' '"' _ _ ?_
    readTaggedKind_exact readBareKind_exact ?_
  · intro source
    unfold readKind
    congr
    funext symbol rest found
    split
    · rfl
    · split <;> rfl
  · intro tree kind character chars rest means spelled
    cases tree with
    | object => cases spelled <;> exact .inl rfl
    | text => cases spelled; exact .inr rfl
    | _ => cases means

end Kinds

section Parts

theorem readNode_exact : Exact readNode (Shaped shapeNode) := by
  have list := (readSingle_exact .node readKind_exact).of_iff fun result chars rest =>
    @shapedBehind_bracket _ shapeNode _ result chars rest fun _ => rfl
  apply either_exact (fun _ => rfl)
    (readOneField_exact .type readKind_exact fun _ => rfl) list
  intro tree kind character chars rest means spelled
  cases tree with
  | object => cases spelled <;> exact .inl rfl
  | list => cases spelled <;> exact .inr rfl
  | _ => cases means

theorem readSink_exact : Exact readSink (Shaped shapeSink) := by
  apply readShape_exact (readPair_exact .pair (readString_exact .text) (readString_exact .text))
  intro tree ends character chars rest means spelled
  cases tree with
  | list => cases spelled <;> rfl
  | _ => cases means

theorem readWire_exact : Exact readWire (Shaped shapeWire) := by
  have ends := readRecord_exact .wire .source .sink (by decide) (readString_exact .text)
    readSink_exact
  apply changed_exact ends
  intro source
  unfold readWire changed
  cases readRecord .wire .source .sink (readString .text) readSink source <;> rfl

theorem readGroup_exact : Exact readGroup (Shaped shapeGroup) := by
  apply readShape_exact (readList_exact readWire_exact)
  intro tree wires character chars rest means spelled
  cases tree with
  | list => cases spelled <;> rfl
  | _ => cases means

theorem readCircuit_exact : Exact readCircuit (Shaped shapeCircuit) := by
  have tables := readRecord_exact .circuit .nodes .edges (by decide)
    (readTable_exact readNode_exact) (readTable_exact readGroup_exact)
  apply changed_exact tables
  intro source
  unfold readCircuit changed
  cases readRecord .circuit .nodes .edges (readTable readNode) (readTable readGroup) source <;> rfl

theorem readDocument_exact : Exact readDocument (Shaped shapeDocument) := by
  apply changed_exact (readTable_exact readCircuit_exact)
  intro source
  unfold readDocument changed
  cases readTable readCircuit source <;> rfl

end Parts

end CircuitDiagram
