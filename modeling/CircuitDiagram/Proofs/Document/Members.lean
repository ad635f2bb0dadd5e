import CircuitDiagram.Proofs.Document.Shape
import CircuitDiagram.Proofs.Json.Container

/-!
Members added up one after the other, against members looked at all together. Two fields are
collected side by side just as each would be alone, and a field alone is collected if it comes
just once.
-/

namespace CircuitDiagram

open Json

variable {α β σ : Type}

theorem named_cons {marks : List Mark} {tree : Tree} {members : List (List Mark × Tree)} :
    named? ((marks, tree) :: members) =
      (text? marks).bind fun name => (named? members).map ((name, tree) :: ·) := by
  rw [named?, List.mapM_cons]
  cases text? marks <;> cases later : named? members <;> rw [named?] at later <;> simp [later]

/-- Adding up members decodes their names, and does nothing else to them than a fold does. -/
theorem addMembers_eq_foldlM (step : σ → String → Tree → Option σ) (state : σ)
    (members : List (List Mark × Tree)) :
    addMembers step state members =
      (named? members).bind fun fields =>
        fields.foldlM (fun sofar field => step sofar field.1 field.2) state := by
  induction members generalizing state with
  | nil => rfl
  | cons member members ih =>
      obtain ⟨marks, tree⟩ := member
      rw [addMembers, named_cons]
      cases text? marks with
      | none => rfl
      | some name =>
          simp only [Option.bind_some, ih]
          cases named? members with
          | none => cases step state name tree <;> rfl
          | some fields => simp [List.foldlM_cons]

theorem shapeRecord_object {first second : String} {shape : Tree → Option α}
    {otherShape : Tree → Option β} {members : List (List Mark × Tree)} {result : α × β} :
    shapeRecord first second shape otherShape (.object members) = some result ↔
      ∃ fields, named? members = some fields ∧
        (sole? first fields).bind shape = some result.1 ∧
        (sole? second fields).bind otherShape = some result.2 := by
  constructor
  · intro means
    obtain ⟨fields, named, means⟩ := Option.bind_eq_some_iff.mp means
    obtain ⟨left, leftMeans, means⟩ := Option.bind_eq_some_iff.mp means
    obtain ⟨right, rightMeans, means⟩ := Option.bind_eq_some_iff.mp means
    cases means
    exact ⟨fields, named, leftMeans, rightMeans⟩
  · rintro ⟨fields, named, left, right⟩
    simp [shapeRecord, named, left, right]

section Fields

/-- A field that has not come before is kept; other members are passed over. -/
def addField (name : String) (shape : Tree → Option α) (state : Option α) (key : String)
    (tree : Tree) : Option (Option α) :=
  if key = name then
    if state.isSome then none else (shape tree).map some
  else some state

def addEither (first second : String) (shape : Tree → Option α) (otherShape : Tree → Option β)
    (state : Option α × Option β) (key : String) (tree : Tree) : Option (Option α × Option β) :=
  if key = first then
    if state.1.isSome then none else (shape tree).map (some ·, state.2)
  else if key = second then
    if state.2.isSome then none else (otherShape tree).map (state.1, some ·)
  else some state

variable {name first second : String} {shape : Tree → Option α} {otherShape : Tree → Option β}

-- With one name for both fields, the second would never be stored.
theorem addEither_iff (different : first ≠ second) {state final : Option α × Option β}
    {key : String} {tree : Tree} :
    addEither first second shape otherShape state key tree = some final ↔
      addField first shape state.1 key tree = some final.1 ∧
        addField second otherShape state.2 key tree = some final.2 := by
  obtain ⟨left, right⟩ := state
  obtain ⟨leftFinal, rightFinal⟩ := final
  unfold addEither addField
  by_cases isFirst : key = first
  · subst isFirst
    cases left <;> cases shape tree <;> simp [different]
  · by_cases isSecond : key = second
    · subst isSecond
      cases right <;> cases otherShape tree <;> simp [isFirst]
    · simp [isFirst, isSecond]

theorem foldlM_addEither (different : first ≠ second) (fields : List (String × Tree))
    {state final : Option α × Option β} :
    fields.foldlM (fun sofar field => addEither first second shape otherShape sofar field.1 field.2)
        state = some final ↔
      fields.foldlM (fun sofar field => addField first shape sofar field.1 field.2) state.1 =
          some final.1 ∧
        fields.foldlM (fun sofar field => addField second otherShape sofar field.1 field.2) state.2 =
          some final.2 := by
  induction fields generalizing state with
  | nil => simp [Prod.ext_iff]
  | cons field fields ih =>
      simp only [List.foldlM_cons, Option.bind_eq_bind, Option.bind_eq_some_iff]
      constructor
      · rintro ⟨next, stepped, rest⟩
        obtain ⟨left, right⟩ := (addEither_iff different).mp stepped
        obtain ⟨leftRest, rightRest⟩ := ih.mp rest
        exact ⟨⟨next.1, left, leftRest⟩, next.2, right, rightRest⟩
      · rintro ⟨⟨left, leftStepped, leftRest⟩, right, rightStepped, rightRest⟩
        exact ⟨(left, right), (addEither_iff different).mpr ⟨leftStepped, rightStepped⟩,
          ih.mpr ⟨leftRest, rightRest⟩⟩

/-- Behind its field an object has no other of that name. -/
theorem foldlM_addField_some (fields : List (String × Tree)) (value : α) {final : Option α} :
    fields.foldlM (fun sofar field => addField name shape sofar field.1 field.2) (some value) =
        some final ↔
      fields.filter (fun field => field.1 == name) = [] ∧ final = some value := by
  induction fields with
  | nil => simp [eq_comm]
  | cons field fields ih =>
      obtain ⟨key, tree⟩ := field
      by_cases same : key = name
      · simp [addField, same]
      · simpa [addField, same] using ih

-- Members are passed over until the field comes; from then on another one is an error.
theorem foldlM_addField_none (fields : List (String × Tree)) (value : α) :
    fields.foldlM (fun sofar field => addField name shape sofar field.1 field.2) none =
        some (some value) ↔
      (sole? name fields).bind shape = some value := by
  induction fields with
  | nil => simp [sole?]
  | cons field fields ih =>
      obtain ⟨key, tree⟩ := field
      by_cases same : key = name
      · have step : addField name shape none key tree = (shape tree).map some := by
          simp [addField, same]
        have sole : sole? name ((key, tree) :: fields) =
            if fields.filter (fun field => field.1 == name) = [] then some tree else none := by
          rw [sole?, List.filter_cons_of_pos (by simpa using same)]
          cases fields.filter (fun field => field.1 == name) <;> simp
        simp only [List.foldlM_cons, step, sole, Option.bind_eq_bind, Option.bind_eq_some_iff,
          Option.map_eq_some_iff]
        constructor
        · rintro ⟨_, ⟨read, means, rfl⟩, rest⟩
          obtain ⟨none, same⟩ := (foldlM_addField_some fields read).mp rest
          cases same
          exact ⟨tree, if_pos none, means⟩
        · rintro ⟨only, found, means⟩
          split at found
          · rename_i none
            cases found
            exact ⟨some value, ⟨value, means, rfl⟩,
              (foldlM_addField_some fields value).mpr ⟨none, rfl⟩⟩
          · contradiction
      · simpa [addField, sole?, same] using ih

end Fields

theorem foldlM_set (shape : Tree → Option α) (fields : List (String × Tree)) (table : Table α) :
    fields.foldlM (fun sofar field => (shape field.2).map (sofar.set field.1)) table =
      (fields.mapM fun field => (shape field.2).map (field.1, ·)).map table.setAll := by
  induction fields generalizing table with
  | nil => rfl
  | cons field fields ih =>
      rw [List.foldlM_cons, List.mapM_cons]
      cases shape field.2 with
      | none => rfl
      | some value =>
          simp only [Option.map_some, Option.bind_eq_bind, Option.bind_some, ih]
          cases fields.mapM fun field => (shape field.2).map (field.1, ·) <;> rfl

/-- Setting members in turn makes the table that the object stands for. -/
theorem addMembers_set (shape : Tree → Option α) (members : List (List Mark × Tree)) :
    addMembers (fun table name tree => (shape tree).map (table.set name)) .empty members =
      shapeTable shape (.object members) := by
  rw [addMembers_eq_foldlM, shapeTable]
  cases named? members with
  | none => rfl
  | some fields =>
      have setAll : Table.setAll .empty = @Table.ofEntries α := funext Table.setAll_empty
      rw [Option.bind_some, foldlM_set, setAll, Option.map_eq_bind]
      rfl

end CircuitDiagram
