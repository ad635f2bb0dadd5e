import CircuitDiagram.Json.Value
import CircuitDiagram.Proofs.Json.Text

/-!
Written values, seen from the grammar. Each value has a tree, with a mark for each character of its
texts, and both written forms of the value are spellings of that tree. The two forms differ only in
the white space between their parts, so lists and objects are dealt with once for any such layout.
-/

namespace CircuitDiagram.Json

section Texts

/-- The mark that a character is written as: a control that has no short escape is given by its
number. -/
def markOf (character : Char) : Mark :=
  if character.toNat < 0x20 ∧ character ∉ ['\n', '\r', '\t', '\x08', '\x0c'] then
    .unit character.toNat
  else .character character

def marksOf (content : String) : List Mark :=
  content.toList.map markOf

theorem hexNumber_control :
    ∀ number < 0x20, hexNumber? '0' '0' (Nat.digitChar (number / 16))
      (Nat.digitChar (number % 16)) = some number := by
  decide

theorem marks_escaped (character : Char) {marks : List Mark} {chars rest : List Char}
    (others : Marks marks chars rest) :
    Marks (markOf character :: marks) ((escaped character).toList ++ chars) rest := by
  by_cases short : character ∈ ['"', '\\', '\n', '\r', '\t', '\x08', '\x0c']
  · simp only [List.mem_cons, List.not_mem_nil, or_false] at short
    rcases short with rfl | rfl | rfl | rfl | rfl | rfl | rfl
    · exact .short .quote others
    · exact .short .backslash others
    · exact .short .newLine others
    · exact .short .carriageReturn others
    · exact .short .tab others
    · exact .short .backspace others
    · exact .short .formFeed others
  · simp only [List.mem_cons, List.not_mem_nil, or_false, not_or] at short
    obtain ⟨noQuote, noBackslash, noNewLine, noReturn, noTab, noBackspace, noFormFeed⟩ := short
    by_cases control : character.toNat < 0x20
    · have mark : markOf character = .unit character.toNat := by
        simp [markOf, control, noNewLine, noReturn, noTab, noBackspace, noFormFeed]
      have written : (escaped character).toList = ['\\', 'u', '0', '0',
          Nat.digitChar (character.toNat / 16), Nat.digitChar (character.toNat % 16)] := by
        simp [escaped, noQuote, noBackslash, noNewLine, noReturn, noTab, noBackspace, noFormFeed,
          control]
      rw [mark, written]
      exact .unit (.mk chars (hexNumber_control _ control)) others
    · have mark : markOf character = .character character := by
        simp [markOf, control]
      have written : (escaped character).toList = [character] := by
        simp [escaped, noQuote, noBackslash, noNewLine, noReturn, noTab, noBackspace, noFormFeed,
          control]
      rw [mark, written]
      exact .plain noQuote noBackslash (Nat.le_of_not_lt control) others

theorem marks_escapedAll (content : List Char) (rest : List Char) :
    Marks (content.map markOf)
      (content.flatMap (fun character => (escaped character).toList) ++ '"' :: rest) rest := by
  induction content with
  | nil => exact .none rest
  | cons character content ih =>
      rw [List.map_cons, List.flatMap_cons, List.append_assoc]
      exact marks_escaped character ih

theorem toList_writeText (content : String) :
    (writeText content).toList =
      '"' :: (content.toList.flatMap (fun character => (escaped character).toList) ++ ['"']) := by
  simp [writeText, String.toList_join, List.flatMap_map]

/-- A key, or a text that stands for itself, from behind its opening quote. -/
theorem marks_writeText (content : String) (rest : List Char) :
    ∃ quoted, (writeText content).toList ++ rest = '"' :: quoted ∧
      Marks (marksOf content) quoted rest := by
  refine ⟨_, ?_, marks_escapedAll content.toList rest⟩
  rw [toList_writeText]
  simp

theorem content_markOf (character : Char) (marks : List Mark) :
    content? (markOf character :: marks) = (content? marks).map (character :: ·) := by
  unfold markOf
  split
  · rename_i control
    have noLow : isLowSurrogate character.toNat = false := by
      simp only [isLowSurrogate, decide_eq_false_iff_not]
      omega
    have noHigh : isHighSurrogate character.toNat = false := by
      simp only [isHighSurrogate, decide_eq_false_iff_not]
      omega
    rw [content_unit noLow noHigh, Char.ofNat_toNat]
  · rw [content?]

@[simp]
theorem text_marksOf (content : String) : text? (marksOf content) = some content := by
  have decoded (chars : List Char) : content? (chars.map markOf) = some chars := by
    induction chars with
    | nil => rfl
    | cons character chars ih => rw [List.map_cons, content_markOf, ih, Option.map_some]
  rw [text?, marksOf, decoded, Option.map_some, String.ofList_toList]

end Texts

section Trees

mutual

def Value.tree : Value → Tree
  | .null => .null
  | .boolean value => .boolean value
  | .number numeral => .number numeral
  | .text content => .text (marksOf content)
  | .list elements => .list (treesOf elements)
  | .object members => .object (memberTreesOf members)

def treesOf : List Value → List Tree
  | [] => []
  | element :: rest => element.tree :: treesOf rest

def memberTreesOf : List (String × Value) → List (List Mark × Tree)
  | [] => []
  | (key, value) :: rest => (marksOf key, value.tree) :: memberTreesOf rest

end

theorem treesOf_eq_map (elements : List Value) : treesOf elements = elements.map Value.tree := by
  induction elements with
  | nil => rfl
  | cons element rest ih => rw [treesOf, ih, List.map_cons]

end Trees

section Layouts

variable {α : Type}

def AllWhite (chars : List Char) : Prop :=
  ∀ character ∈ chars, isWhite character = true

theorem blanks_append {white : List Char} (allWhite : AllWhite white) (rest : List Char) :
    Blanks (white ++ rest) rest := by
  induction white with
  | nil => exact .none rest
  | cons character white ih =>
      exact .more (allWhite character List.mem_cons_self)
        (ih fun other inside => allWhite other (List.mem_cons_of_mem _ inside))

/-- The parts of a list or an object: some white space before each of them, and commas between. -/
def laidOut (before : List Char) (write : α → List Char) : List α → List Char
  | [] => []
  | [part] => before ++ write part
  | part :: next :: rest => before ++ write part ++ ',' :: laidOut before write (next :: rest)

theorem spells_laidOut_elements (before after : List Char) (write : Value → List Char)
    (whiteBefore : AllWhite before) (whiteAfter : AllWhite after) (rest : List Char)
    (element : Value) (others : List Value)
    (each : ∀ value ∈ element :: others, ∀ rest,
      Spells (.value value.tree) (write value ++ rest) rest) :
    Spells (.elements (treesOf (element :: others)))
      (laidOut before write (element :: others) ++ (after ++ ']' :: rest)) rest := by
  induction others generalizing element with
  | nil =>
      rw [laidOut, List.append_assoc]
      exact .element (blanks_append whiteBefore _) (each element List.mem_cons_self _)
        (.noElement (blanks_append whiteAfter _))
  | cons next others ih =>
      have later := ih next fun value inside => each value (List.mem_cons_of_mem _ inside)
      rw [laidOut, List.append_assoc, List.append_assoc, List.cons_append]
      exact .element (blanks_append whiteBefore _) (each element List.mem_cons_self _)
        (.nextElement (.none _) later)

/-- A member with some white space behind its colon. -/
def memberText (gap : List Char) (write : Value → List Char) (member : String × Value) :
    List Char :=
  (writeText member.1).toList ++ ':' :: (gap ++ write member.2)

/-- What is behind the member's value is left open, since that is where members differ. -/
theorem spells_memberText {before gap : List Char} {write : Value → List Char}
    (whiteBefore : AllWhite before) (whiteGap : AllWhite gap) {member : String × Value}
    {trees : List (List Mark × Tree)} {behind rest : List Char}
    (value : Spells (.value member.2.tree) (write member.2 ++ behind) behind)
    (more : Spells (.moreMembers trees) behind rest) :
    Spells (.members ((marksOf member.1, member.2.tree) :: trees))
      (before ++ (memberText gap write member ++ behind)) rest := by
  obtain ⟨quoted, text, marks⟩ :=
    marks_writeText member.1 (':' :: (gap ++ (write member.2 ++ behind)))
  have whole : memberText gap write member ++ behind = '"' :: quoted := by
    rw [← text, memberText]
    simp
  rw [whole]
  exact .member (blanks_append whiteBefore _) marks (.none _) (blanks_append whiteGap _) value more

theorem spells_laidOut_members (before after gap : List Char) (write : Value → List Char)
    (whiteBefore : AllWhite before) (whiteAfter : AllWhite after) (whiteGap : AllWhite gap)
    (rest : List Char) (member : String × Value) (others : List (String × Value))
    (each : ∀ entry ∈ member :: others, ∀ rest,
      Spells (.value entry.2.tree) (write entry.2 ++ rest) rest) :
    Spells (.members (memberTreesOf (member :: others)))
      (laidOut before (memberText gap write) (member :: others) ++ (after ++ '}' :: rest)) rest := by
  induction others generalizing member with
  | nil =>
      rw [laidOut, List.append_assoc]
      exact spells_memberText whiteBefore whiteGap (each member List.mem_cons_self _)
        (.noMember (blanks_append whiteAfter _))
  | cons next others ih =>
      have later := ih next fun entry inside => each entry (List.mem_cons_of_mem _ inside)
      rw [laidOut, List.append_assoc, List.append_assoc, List.cons_append]
      exact spells_memberText whiteBefore whiteGap (each member List.mem_cons_self _)
        (.nextMember (.none _) later)

end Layouts

section Forms

theorem toList_compactElements (elements : List Value) :
    (Value.compactElements elements).toList =
      laidOut [] (fun element => element.compact.toList) elements := by
  induction elements with
  | nil => rfl
  | cons element rest ih =>
      cases rest with
      | nil => rfl
      | cons next rest =>
          rw [Value.compactElements, laidOut, ← ih]
          simp

theorem toList_compactMembers (members : List (String × Value)) :
    (Value.compactMembers members).toList =
      laidOut [] (memberText [] fun value => value.compact.toList) members := by
  induction members with
  | nil => rfl
  | cons member rest ih =>
      obtain ⟨key, value⟩ := member
      cases rest with
      | nil => simp [Value.compactMembers, laidOut, memberText]
      | cons next rest =>
          rw [Value.compactMembers, laidOut, ← ih]
          simp [memberText]

theorem toList_prettyElements (level : Nat) (elements : List Value) :
    (Value.prettyElements level elements).toList =
      laidOut (Value.indent level).toList (fun element => (element.prettyAt level).toList)
        elements := by
  induction elements with
  | nil => rfl
  | cons element rest ih =>
      cases rest with
      | nil => simp [Value.prettyElements, laidOut]
      | cons next rest =>
          rw [Value.prettyElements, laidOut, ← ih]
          simp

theorem toList_prettyMembers (level : Nat) (members : List (String × Value)) :
    (Value.prettyMembers level members).toList =
      laidOut (Value.indent level).toList
        (memberText [' '] fun value => (value.prettyAt level).toList) members := by
  induction members with
  | nil => rfl
  | cons member rest ih =>
      obtain ⟨key, value⟩ := member
      cases rest with
      | nil => simp [Value.prettyMembers, laidOut, memberText]
      | cons next rest =>
          rw [Value.prettyMembers, laidOut, ← ih]
          simp [memberText]

theorem allWhite_nil : AllWhite [] := by
  intro character inside
  cases inside

theorem allWhite_blank : AllWhite [' '] := by
  intro character inside
  obtain rfl := List.mem_singleton.mp inside
  rfl

theorem allWhite_indent (level : Nat) : AllWhite (Value.indent level).toList := by
  intro character inside
  simp only [Value.indent, String.toList_append, String.toList_ofList, List.mem_append] at inside
  rcases inside with line | spaces
  · obtain rfl := List.mem_singleton.mp line
    rfl
  · obtain rfl := List.eq_of_mem_replicate spaces
    rfl

/-- Both written forms of the value spell its tree, at any level and whatever comes behind. -/
structure Value.Written (value : Value) : Prop where
  compact (rest : List Char) : Spells (.value value.tree) (value.compact.toList ++ rest) rest
  pretty (level : Nat) (rest : List Char) :
    Spells (.value value.tree) ((value.prettyAt level).toList ++ rest) rest

theorem written_text (content : String) : (Value.text content).Written := by
  have spelled (rest : List Char) :
      Spells (.value (.text (marksOf content))) ((writeText content).toList ++ rest) rest := by
    obtain ⟨quoted, text, marks⟩ := marks_writeText content rest
    rw [text]
    exact .text marks
  constructor
  · intro rest
    rw [Value.tree, Value.compact]
    exact spelled rest
  · intro level rest
    rw [Value.tree, Value.prettyAt]
    exact spelled rest

theorem written_list {elements : List Value} (each : ∀ element ∈ elements, element.Written) :
    (Value.list elements).Written := by
  cases elements with
  | nil =>
      constructor
      · exact fun rest => .emptyList (.none _)
      · intro level rest
        rw [Value.tree, Value.prettyAt]
        exact .emptyList (.none _)
  | cons element others =>
      constructor
      · intro rest
        have inside := spells_laidOut_elements [] [] _ allWhite_nil allWhite_nil rest
          element others
          fun value inside => (each value inside).compact
        rw [← toList_compactElements] at inside
        rw [Value.tree, Value.compact]
        simpa using Spells.list inside
      · intro level rest
        have inside := spells_laidOut_elements _ _ _ (allWhite_indent (level + 1))
          (allWhite_indent level) rest element others
          fun value inside => (each value inside).pretty (level + 1)
        rw [← toList_prettyElements] at inside
        rw [Value.tree, Value.prettyAt]
        simpa using Spells.list inside

theorem written_object {members : List (String × Value)}
    (each : ∀ member ∈ members, member.2.Written) : (Value.object members).Written := by
  cases members with
  | nil =>
      constructor
      · exact fun rest => .emptyObject (.none _)
      · intro level rest
        rw [Value.tree, Value.prettyAt]
        exact .emptyObject (.none _)
  | cons member others =>
      constructor
      · intro rest
        have inside := spells_laidOut_members [] [] [] (fun value => value.compact.toList)
          allWhite_nil allWhite_nil allWhite_nil rest member others
          fun entry inside => (each entry inside).compact
        rw [← toList_compactMembers] at inside
        rw [Value.tree, Value.compact]
        simpa using Spells.object inside
      · intro level rest
        have inside := spells_laidOut_members _ _ [' ']
          (fun value => (value.prettyAt (level + 1)).toList) (allWhite_indent (level + 1))
          (allWhite_indent level) allWhite_blank rest member others
          fun entry inside => (each entry inside).pretty (level + 1)
        rw [← toList_prettyMembers] at inside
        rw [Value.tree, Value.prettyAt]
        simpa using Spells.object inside

theorem Value.Written.isText_compact {value : Value} (written : value.Written) :
    IsText value.compact value.tree :=
  ⟨value.compact.toList, [], .none _, by simpa using written.compact [], .none _⟩

theorem Value.Written.isText_pretty {value : Value} (written : value.Written) :
    IsText value.pretty value.tree :=
  ⟨value.pretty.toList, [], .none _, by simpa [Value.pretty] using written.pretty 0 [], .none _⟩

end Forms

end CircuitDiagram.Json
