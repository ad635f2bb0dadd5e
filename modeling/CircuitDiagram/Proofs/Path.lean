import CircuitDiagram.Path

/-!
Paths of names in a directory. A name without a slash is the last of the names of such a path, and
tells it from the path of any other name in that directory. The extension of a name is what stands
behind its last dot.
-/

namespace CircuitDiagram.Path

section Slashes

theorem splitAtSlashes_ne_nil (text : List Char) : splitAtSlashes text ≠ [] := by
  cases text with
  | nil => exact List.cons_ne_nil _ _
  | cons character rest =>
      rw [splitAtSlashes]
      split
      · exact List.cons_ne_nil _ _
      · split <;> exact List.cons_ne_nil _ _

theorem splitAtSlashes_cons (character : Char) {text first : List Char}
    {others : List (List Char)} (split : splitAtSlashes text = first :: others) :
    splitAtSlashes (character :: text) =
      if character = '/' then [] :: first :: others else (character :: first) :: others := by
  rw [splitAtSlashes, split]

theorem splitAtSlashes_append (text rest : List Char) :
    splitAtSlashes (text ++ '/' :: rest) = splitAtSlashes text ++ splitAtSlashes rest := by
  obtain ⟨name, names, split⟩ := List.exists_cons_of_ne_nil (splitAtSlashes_ne_nil rest)
  induction text with
  | nil =>
      rw [List.nil_append, splitAtSlashes_cons '/' split, if_pos rfl, split]
      rfl
  | cons character text ih =>
      obtain ⟨first, others, inner⟩ := List.exists_cons_of_ne_nil (splitAtSlashes_ne_nil text)
      rw [inner, List.cons_append] at ih
      rw [List.cons_append, splitAtSlashes_cons character ih, splitAtSlashes_cons character inner]
      split <;> rfl

theorem splitAtSlashes_of_not_mem {text : List Char} (plain : '/' ∉ text) :
    splitAtSlashes text = [text] := by
  induction text with
  | nil => rfl
  | cons character rest ih =>
      rw [List.mem_cons, not_or] at plain
      rw [splitAtSlashes_cons character (ih plain.2), if_neg (Ne.symm plain.1)]

end Slashes

section Join

variable {directory name other : String}

theorem isAbsolute_of_not_mem (plain : '/' ∉ name.toList) : isAbsolute name = false := by
  rw [isAbsolute, beq_eq_false_iff_ne]
  intro head
  exact plain (List.mem_of_mem_head? head)

theorem join_injective (plain : '/' ∉ name.toList) (otherPlain : '/' ∉ other.toList)
    (same : join directory name = join directory other) : name = other := by
  simp only [join, isAbsolute_of_not_mem plain, isAbsolute_of_not_mem otherPlain] at same
  split at same
  · contradiction
  · split at same
    · exact (String.append_right_inj directory).mp same
    · exact (String.append_right_inj _).mp same

variable (directory) in
/-- A name stands for itself behind no directory. Behind another it comes after a slash, which the
directory may end with already. -/
theorem join_cases (plain : '/' ∉ name.toList) :
    directory = "" ∧ join directory name = name ∨
      (∃ front, directory.toList = front ++ ['/'] ∧
        (join directory name).toList = front ++ '/' :: name.toList) ∨
      directory ≠ "" ∧ (join directory name).toList = directory.toList ++ '/' :: name.toList := by
  simp only [join, isAbsolute_of_not_mem plain, Bool.false_eq_true, if_false]
  split
  · rename_i closed
    rw [Bool.or_eq_true] at closed
    rcases closed with empty | slash
    · left
      rw [String.isEmpty_iff.mp empty, String.empty_append]
      exact ⟨rfl, rfl⟩
    · right
      left
      rw [endsWithSlash, beq_iff_eq, List.getLast?_eq_some_iff] at slash
      obtain ⟨front, same⟩ := slash
      exact ⟨front, same, by simp [same]⟩
  · rename_i between
    right
    right
    constructor
    · rintro rfl
      exact between rfl
    · simp

variable (directory) in
/-- The path of a name in a directory is that name, or has it behind a slash. -/
theorem toList_join (plain : '/' ∉ name.toList) :
    (join directory name).toList = name.toList ∨
      ∃ front, (join directory name).toList = front ++ '/' :: name.toList := by
  rcases join_cases directory plain with ⟨-, same⟩ | ⟨front, -, same⟩ | ⟨-, same⟩
  · exact .inl (by rw [same])
  · exact .inr ⟨front, same⟩
  · exact .inr ⟨_, same⟩

variable (directory) in
theorem names_join (plain : '/' ∉ name.toList) :
    ∃ before, names (join directory name) = before ++ [name] := by
  have single := splitAtSlashes_of_not_mem plain
  rcases toList_join directory plain with same | ⟨front, same⟩
  · exact ⟨[], by simp [names, same, single]⟩
  · refine ⟨(splitAtSlashes front).map String.ofList, ?_⟩
    simp [names, same, splitAtSlashes_append, single]

variable (directory) in
theorem isAbsolute_join (plain : '/' ∉ name.toList) :
    isAbsolute (join directory name) = isAbsolute directory := by
  rcases join_cases directory plain with ⟨rfl, same⟩ | ⟨front, ends, same⟩ | ⟨filled, same⟩
  · rw [same, isAbsolute_of_not_mem plain]
    rfl
  · cases front <;> simp [isAbsolute, ends, same]
  · obtain ⟨first, others, split⟩ :=
      List.exists_cons_of_ne_nil (mt String.toList_eq_nil_iff.mp filled)
    simp [isAbsolute, split, same]

end Join

section Components

variable {name : String}

/-- What stands behind a slash counts unless it is empty or a dot. -/
theorem components_behind {path : String} {front behind : List Char} (plain : '/' ∉ behind)
    (same : path.toList = front ++ '/' :: behind) :
    components path = components (String.ofList front) ++
      [String.ofList behind].filter fun name => !(name.isEmpty || name == ".") := by
  obtain ⟨first, others, split⟩ := List.exists_cons_of_ne_nil (splitAtSlashes_ne_nil front)
  have parts : names path =
      String.ofList first :: (others.map String.ofList ++ [String.ofList behind]) := by
    simp [names, same, splitAtSlashes_append, splitAtSlashes_of_not_mem plain, split]
  have before : names (String.ofList front) = String.ofList first :: others.map String.ofList := by
    rw [names, String.toList_ofList, split, List.map_cons]
  rw [components, parts, components, before]
  simp only [List.filter_append, List.append_assoc]

/-- A name in a directory is one component more than the directory has. -/
theorem components_join (directory : String) (plain : '/' ∉ name.toList) (filled : name ≠ "")
    (leads : name ≠ ".") : components (join directory name) = components directory ++ [name] := by
  have counts : ([name].filter fun name => !(name.isEmpty || name == ".")) = [name] := by
    simp [filled, leads]
  rcases join_cases directory plain with ⟨rfl, same⟩ | ⟨front, ends, same⟩ | ⟨-, same⟩
  · have single : names name = [name] := by
      rw [names, splitAtSlashes_of_not_mem plain, List.map_singleton, String.ofList_toList]
    have none : components "" = [] := by decide
    rw [same, none, components, single]
    simp [filled]
  · have nothing : '/' ∉ ([] : List Char) := List.not_mem_nil
    have without : components directory = components (String.ofList front) := by
      simpa using components_behind nothing ends
    rw [components_behind plain same, String.ofList_toList, counts, without]
  · rw [components_behind plain same, String.ofList_toList, String.ofList_toList, counts]

end Components

section Extension

variable {stem other extension : String}

theorem withExtension_eq (stem extension : String) :
    withExtension stem extension = stem ++ ("." ++ extension) :=
  String.append_assoc ..

theorem withExtension_injective
    (same : withExtension stem extension = withExtension other extension) : stem = other := by
  rw [withExtension_eq, withExtension_eq, String.append_left_inj] at same
  exact same

/-- A stem may have dots of its own, but the last one of all is that of the extension. -/
theorem extension_of_withExtension (plain : '.' ∉ extension.toList) :
    (withExtension stem extension).toList.reverse.takeWhile (· != '.') =
      extension.toList.reverse := by
  have parts : (withExtension stem extension).toList.reverse =
      extension.toList.reverse ++ '.' :: stem.toList.reverse := by
    simp [withExtension]
  have whole : ∀ character ∈ extension.toList.reverse, (character != '.') = true := by
    intro character inside
    rw [bne_iff_ne]
    rintro rfl
    exact plain (List.mem_reverse.mp inside)
  rw [parts, List.takeWhile_append_of_pos whole]
  simp

theorem extension_injective {otherExtension : String} (plain : '.' ∉ extension.toList)
    (otherPlain : '.' ∉ otherExtension.toList)
    (same : withExtension stem extension = withExtension other otherExtension) :
    extension = otherExtension := by
  have ends : (withExtension stem extension).toList.reverse.takeWhile (· != '.') = _ :=
    extension_of_withExtension plain
  rw [same, extension_of_withExtension otherPlain, List.reverse_inj] at ends
  exact (String.toList_injective ends).symm

end Extension

end CircuitDiagram.Path
