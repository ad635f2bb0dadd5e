import CircuitDiagram.Proofs.Document.RoundTrip
import CircuitDiagram.Proofs.Json.Unambiguous
import CircuitDiagram.Run

/-!
The forms of the values that are read as documents. Described are objects for circuits, nodes and
wires. Reading is lenient: it takes a list of the members of such an object as well, and for a
boundary an object with nothing but its name. Every other form is refused, wherever it stands.
-/

namespace CircuitDiagram

open Json

variable {α β : Type}

inductive Dialect where
  | documented
  | lenient
  deriving DecidableEq, Repr

section Forms

/-- The object has one member of that name, and the value of it has that form. -/
def HasField (name : String) (form : Tree → Prop) (fields : List (String × Tree)) : Prop :=
  ∃ before tree after, fields = before ++ (name, tree) :: after ∧
    (∀ field ∈ before, field.1 ≠ name) ∧ (∀ field ∈ after, field.1 ≠ name) ∧ form tree

inductive TextForm : Tree → Prop where
  | text {marks : List Mark} {content : String} (means : text? marks = some content) :
      TextForm (.text marks)

inductive PairForm (form otherForm : Tree → Prop) : Tree → Prop where
  | list {tree otherTree : Tree} (first : form tree) (second : otherForm otherTree) :
      PairForm form otherForm (.list [tree, otherTree])

inductive ListForm (form : Tree → Prop) : Tree → Prop where
  | list {trees : List Tree} (each : ∀ tree ∈ trees, form tree) : ListForm form (.list trees)

/-- An object in which all members have that form, whatever their names. -/
inductive TableForm (form : Tree → Prop) : Tree → Prop where
  | object {members : List (List Mark × Tree)} {fields : List (String × Tree)}
      (names : named? members = some fields) (each : ∀ field ∈ fields, form field.2) :
      TableForm form (.object members)

inductive RecordForm (dialect : Dialect) (first second : String) (form otherForm : Tree → Prop) :
    Tree → Prop where
  | object {members : List (List Mark × Tree)} {fields : List (String × Tree)}
      (names : named? members = some fields) (firstField : HasField first form fields)
      (secondField : HasField second otherForm fields) :
      RecordForm dialect first second form otherForm (.object members)
  | list {tree : Tree} (allowed : dialect = .lenient) (pair : PairForm form otherForm tree) :
      RecordForm dialect first second form otherForm tree

inductive KindForm (dialect : Dialect) : Tree → Prop where
  | plain {tree : Tree} (kind : PlainKind tree) : KindForm dialect tree
  | emptyBoundary {members : List (List Mark × Tree)} (allowed : dialect = .lenient) (side : Side)
      (fields : named? members = some [(side.name, .null)]) : KindForm dialect (.object members)

inductive NodeForm (dialect : Dialect) : Tree → Prop where
  | object {members : List (List Mark × Tree)} {fields : List (String × Tree)}
      (names : named? members = some fields)
      (field : HasField "type_" (KindForm dialect) fields) : NodeForm dialect (.object members)
  | list {tree : Tree} (allowed : dialect = .lenient) (kind : KindForm dialect tree) :
      NodeForm dialect (.list [tree])

def SinkForm : Tree → Prop :=
  PairForm TextForm TextForm

def WireForm (dialect : Dialect) : Tree → Prop :=
  RecordForm dialect "source" "sink" TextForm SinkForm

def CircuitForm (dialect : Dialect) : Tree → Prop :=
  RecordForm dialect "nodes" "edges" (TableForm (NodeForm dialect))
    (TableForm (ListForm (WireForm dialect)))

def DocumentForm (dialect : Dialect) : Tree → Prop :=
  TableForm (CircuitForm dialect)

end Forms

section Lenient

variable {form otherForm weaker otherWeaker : Tree → Prop} {tree : Tree}

theorem HasField.imp (each : ∀ tree, form tree → weaker tree) {name : String}
    {fields : List (String × Tree)} (field : HasField name form fields) :
    HasField name weaker fields := by
  obtain ⟨before, tree, after, same, notBefore, notAfter, formed⟩ := field
  exact ⟨before, tree, after, same, notBefore, notAfter, each tree formed⟩

theorem TableForm.imp (each : ∀ tree, form tree → weaker tree) (table : TableForm form tree) :
    TableForm weaker tree := by
  cases table with
  | object names formed => exact .object names fun field inside => each _ (formed field inside)

theorem ListForm.imp (each : ∀ tree, form tree → weaker tree) (list : ListForm form tree) :
    ListForm weaker tree := by
  cases list with
  | list formed => exact .list fun tree inside => each tree (formed tree inside)

theorem RecordForm.lenient (each : ∀ tree, form tree → weaker tree)
    (eachOther : ∀ tree, otherForm tree → otherWeaker tree) {first second : String}
    (record : RecordForm .documented first second form otherForm tree) :
    RecordForm .lenient first second weaker otherWeaker tree := by
  cases record with
  | object names firstField secondField =>
      exact .object names (firstField.imp each) (secondField.imp eachOther)
  | list allowed => contradiction

theorem KindForm.lenient (kind : KindForm .documented tree) : KindForm .lenient tree := by
  cases kind with
  | plain kind => exact .plain kind
  | emptyBoundary allowed => contradiction

theorem NodeForm.lenient (node : NodeForm .documented tree) : NodeForm .lenient tree := by
  cases node with
  | object names field => exact .object names (field.imp fun _ => KindForm.lenient)
  | list allowed => contradiction

theorem WireForm.lenient (wire : WireForm .documented tree) : WireForm .lenient tree :=
  RecordForm.lenient (fun _ formed => formed) (fun _ formed => formed) wire

theorem CircuitForm.lenient (circuit : CircuitForm .documented tree) :
    CircuitForm .lenient tree := by
  refine RecordForm.lenient ?_ ?_ circuit
  · exact fun _ => TableForm.imp fun _ => NodeForm.lenient
  · exact fun _ => TableForm.imp fun _ => ListForm.imp fun _ => WireForm.lenient

theorem DocumentForm.lenient (document : DocumentForm .documented tree) :
    DocumentForm .lenient tree :=
  TableForm.imp (fun _ => CircuitForm.lenient) document

end Lenient

section Members

variable {form otherForm : Tree → Prop} {dialect : Dialect}

theorem HasField.head {name : String} {tree : Tree} {fields : List (String × Tree)}
    (field : HasField name form ((name, tree) :: fields)) : form tree := by
  obtain ⟨before, other, after, same, notBefore, -, formed⟩ := field
  cases before with
  | nil =>
      cases same
      exact formed
  | cons first before =>
      have named := congrArg Prod.fst (List.cons.inj same).1
      exact absurd named.symm (notBefore first (by simp))

theorem TableForm.each_member {members : List (String × Value)}
    (table : TableForm form (Value.object members).tree) :
    ∀ member ∈ members, form member.2.tree := by
  rw [Value.tree] at table
  cases table with
  | object names each =>
      rw [named_memberTreesOf] at names
      cases names
      intro member inside
      exact each _ (List.mem_map_of_mem inside)

theorem RecordForm.first_member {first second : String} {value : Value}
    {others : List (String × Value)}
    (record : RecordForm dialect first second form otherForm
      (Value.object ((first, value) :: others)).tree) : form value.tree := by
  rw [Value.tree] at record
  cases record with
  | object names field =>
      rw [named_memberTreesOf] at names
      cases names
      exact field.head
  | list _ pair => cases pair

theorem NodeForm.first_member {value : Value} {others : List (String × Value)}
    (node : NodeForm dialect (Value.object (("type_", value) :: others)).tree) :
    KindForm dialect value.tree := by
  rw [Value.tree] at node
  cases node with
  | object names field =>
      rw [named_memberTreesOf] at names
      cases names
      exact field.head

end Members

/-- The values that have some meaning are those of the given form. -/
def Accepts (shape : Tree → Option α) (form : Tree → Prop) : Prop :=
  ∀ tree, (shape tree).isSome = true ↔ form tree

section Accepting

variable {shape : Tree → Option α} {otherShape : Tree → Option β} {form otherForm : Tree → Prop}

theorem isSome_mapM_iff {γ : Type} (read : γ → Option α) (parts : List γ) :
    (parts.mapM read).isSome = true ↔ ∀ part ∈ parts, (read part).isSome = true := by
  induction parts with
  | nil => simp
  | cons part parts ih =>
      rw [List.mapM_cons, List.forall_mem_cons, ← ih]
      cases read part <;> cases parts.mapM read <;> simp

theorem sole_eq_some_iff {name : String} {fields : List (String × Tree)} {tree : Tree} :
    sole? name fields = some tree ↔
      ∃ before after, fields = before ++ (name, tree) :: after ∧
        (∀ field ∈ before, field.1 ≠ name) ∧ (∀ field ∈ after, field.1 ≠ name) := by
  constructor
  · intro sole
    unfold sole? at sole
    split at sole
    · rename_i member only
      cases sole
      obtain ⟨before, after, same, notBefore, named, notAfter⟩ := List.filter_eq_cons_iff.mp only
      rw [List.filter_eq_nil_iff] at notAfter
      obtain rfl := eq_of_beq named
      refine ⟨before, after, same, fun field inside => ?_, fun field inside => ?_⟩
      · simpa using notBefore field inside
      · simpa using notAfter field inside
    · contradiction
  · rintro ⟨before, after, rfl, notBefore, notAfter⟩
    have none {fields : List (String × Tree)} (other : ∀ field ∈ fields, field.1 ≠ name) :
        fields.filter (fun field => field.1 == name) = [] :=
      List.filter_eq_nil_iff.mpr fun field inside => by simpa using other field inside
    simp [sole?, none notBefore, none notAfter]

theorem isSome_field_iff (accepts : Accepts shape form) (name : String)
    (fields : List (String × Tree)) :
    ((sole? name fields).bind shape).isSome = true ↔ HasField name form fields := by
  simp only [Option.isSome_bind, Option.any_eq_true, sole_eq_some_iff]
  constructor
  · rintro ⟨tree, ⟨before, after, same, notBefore, notAfter⟩, means⟩
    exact ⟨before, tree, after, same, notBefore, notAfter, (accepts tree).mp means⟩
  · rintro ⟨before, tree, after, same, notBefore, notAfter, formed⟩
    exact ⟨tree, ⟨before, after, same, notBefore, notAfter⟩, (accepts tree).mpr formed⟩

theorem accepts_text : Accepts shapeText TextForm := by
  intro tree
  constructor
  · intro accepted
    unfold shapeText at accepted
    split at accepted
    · obtain ⟨content, means⟩ := Option.isSome_iff_exists.mp accepted
      exact .text means
    · contradiction
  · rintro ⟨means⟩
    exact Option.isSome_of_eq_some means

theorem accepts_pair (accepts : Accepts shape form) (otherAccepts : Accepts otherShape otherForm) :
    Accepts (shapePair shape otherShape) (PairForm form otherForm) := by
  intro tree
  constructor
  · intro accepted
    unfold shapePair at accepted
    split at accepted
    · rename_i first second
      simp only [Option.bind_eq_bind, Option.isSome_bind, Option.any_eq_true] at accepted
      obtain ⟨value, means, otherValue, otherMeans, -⟩ := accepted
      refine .list ((accepts first).mp ?_) ((otherAccepts second).mp ?_)
      · exact Option.isSome_of_eq_some means
      · exact Option.isSome_of_eq_some otherMeans
    · contradiction
  · rintro ⟨first, second⟩
    obtain ⟨value, means⟩ := Option.isSome_iff_exists.mp ((accepts _).mpr first)
    obtain ⟨otherValue, otherMeans⟩ := Option.isSome_iff_exists.mp ((otherAccepts _).mpr second)
    simp [shapePair, means, otherMeans]

theorem accepts_list (accepts : Accepts shape form) :
    Accepts (shapeList shape) (ListForm form) := by
  intro tree
  constructor
  · intro accepted
    unfold shapeList at accepted
    split at accepted
    · rw [isSome_mapM_iff] at accepted
      exact .list fun tree inside => (accepts tree).mp (accepted tree inside)
    · contradiction
  · rintro ⟨each⟩
    rw [shapeList, isSome_mapM_iff]
    exact fun tree inside => (accepts tree).mpr (each tree inside)

theorem accepts_table (accepts : Accepts shape form) :
    Accepts (shapeTable shape) (TableForm form) := by
  have entries (fields : List (String × Tree)) :
      (fields.mapM fun field => (shape field.2).map (field.1, ·)).isSome = true ↔
        ∀ field ∈ fields, form field.2 := by
    rw [isSome_mapM_iff]
    simp only [Option.isSome_map, accepts _]
  intro tree
  constructor
  · intro accepted
    unfold shapeTable at accepted
    split at accepted
    · obtain ⟨table, means⟩ := Option.isSome_iff_exists.mp accepted
      obtain ⟨fields, names, means⟩ := Option.bind_eq_some_iff.mp means
      obtain ⟨all, found, -⟩ := Option.bind_eq_some_iff.mp means
      exact .object names ((entries fields).mp (Option.isSome_of_eq_some found))
    · contradiction
  · rintro ⟨names, each⟩
    obtain ⟨all, found⟩ := Option.isSome_iff_exists.mp ((entries _).mpr each)
    simp [shapeTable, names, found]

theorem accepts_record_object {first second : String} (accepts : Accepts shape form)
    (otherAccepts : Accepts otherShape otherForm) (members : List (List Mark × Tree)) :
    (shapeRecord first second shape otherShape (.object members)).isSome = true ↔
      RecordForm .lenient first second form otherForm (.object members) := by
  constructor
  · intro accepted
    obtain ⟨parts, means⟩ := Option.isSome_iff_exists.mp accepted
    obtain ⟨fields, names, left, right⟩ := shapeRecord_object.mp means
    refine .object names ((isSome_field_iff accepts _ _).mp ?_)
      ((isSome_field_iff otherAccepts _ _).mp ?_)
    · exact Option.isSome_of_eq_some left
    · exact Option.isSome_of_eq_some right
  · intro record
    cases record with
    | object names firstField secondField =>
        obtain ⟨left, leftMeans⟩ :=
          Option.isSome_iff_exists.mp ((isSome_field_iff accepts _ _).mpr firstField)
        obtain ⟨right, rightMeans⟩ :=
          Option.isSome_iff_exists.mp ((isSome_field_iff otherAccepts _ _).mpr secondField)
        have means : shapeRecord first second shape otherShape (.object members) =
            some (left, right) := shapeRecord_object.mpr ⟨_, names, leftMeans, rightMeans⟩
        exact Option.isSome_of_eq_some means
    | list _ pair => cases pair

theorem accepts_record (first second : String) (accepts : Accepts shape form)
    (otherAccepts : Accepts otherShape otherForm) :
    Accepts (shapeRecord first second shape otherShape)
      (RecordForm .lenient first second form otherForm) := by
  intro tree
  unfold shapeRecord
  split
  · exact accepts_record_object accepts otherAccepts _
  · rename_i noObject
    rw [accepts_pair accepts otherAccepts]
    constructor
    · exact .list rfl
    · intro record
      cases record with
      | object => exact (noObject _ rfl).elim
      | list _ pair => exact pair

theorem named_eq_cons_iff {members : List (List Mark × Tree)} {field : String × Tree}
    {fields : List (String × Tree)} :
    named? members = some (field :: fields) ↔
      ∃ tag others, members = (tag, field.2) :: others ∧ text? tag = some field.1 ∧
        named? others = some fields := by
  constructor
  · intro names
    cases members with
    | nil => simp [named?] at names
    | cons member others =>
        obtain ⟨tag, tree⟩ := member
        rw [named_cons] at names
        obtain ⟨name, tagged, names⟩ := Option.bind_eq_some_iff.mp names
        obtain ⟨rest, names, same⟩ := Option.map_eq_some_iff.mp names
        cases same
        exact ⟨tag, others, rfl, tagged, names⟩
  · rintro ⟨tag, others, rfl, tagged, names⟩
    rw [named_cons, tagged, names]
    rfl

theorem named_eq_singleton_iff {members : List (List Mark × Tree)} {name : String} {tree : Tree} :
    named? members = some [(name, tree)] ↔
      ∃ tag, members = [(tag, tree)] ∧ text? tag = some name := by
  rw [named_eq_cons_iff]
  constructor
  · rintro ⟨tag, others, rfl, tagged, none⟩
    cases others with
    | nil => exact ⟨tag, rfl, tagged⟩
    | cons member others =>
        rw [named_cons] at none
        obtain ⟨_, _, more⟩ := Option.bind_eq_some_iff.mp none
        simp at more
  · rintro ⟨tag, rfl, tagged⟩
    exact ⟨tag, [], rfl, tagged, rfl⟩

theorem isSome_boundary_iff (marks : List Mark) :
    ((text? marks).bind boundary?).isSome = true ↔ ∃ side : Side, text? marks = some side.name := by
  constructor
  · intro named
    obtain ⟨kind, means⟩ := Option.isSome_iff_exists.mp named
    obtain ⟨name, means, named⟩ := Option.bind_eq_some_iff.mp means
    unfold boundary? at named
    split at named
    · rename_i input
      exact ⟨.input, means.trans (congrArg some input)⟩
    · split at named
      · rename_i output
        exact ⟨.output, means.trans (congrArg some output)⟩
      · contradiction
  · rintro ⟨side, means⟩
    rw [means]
    cases side <;> rfl

theorem accepts_kind : Accepts shapeKind (KindForm .lenient) := by
  intro tree
  constructor
  · intro accepted
    unfold shapeKind at accepted
    split at accepted
    · obtain ⟨side, means⟩ := (isSome_boundary_iff _).mp accepted
      cases side with
      | input => exact .plain (.input means)
      | output => exact .plain (.output means)
    · obtain ⟨side, tagged⟩ := (isSome_boundary_iff _).mp accepted
      exact .emptyBoundary rfl side (named_eq_singleton_iff.mpr ⟨_, rfl, tagged⟩)
    · split at accepted
      · rename_i tagged
        rw [Option.isSome_map] at accepted
        obtain ⟨name, means⟩ := Option.isSome_iff_exists.mp accepted
        exact .plain (.gate (named_eq_singleton_iff.mpr ⟨_, rfl, tagged⟩) means)
      · contradiction
    · contradiction
  · intro kind
    cases kind with
    | plain kind =>
        cases kind with
        | input means => exact (isSome_boundary_iff _).mpr ⟨.input, means⟩
        | output means => exact (isSome_boundary_iff _).mpr ⟨.output, means⟩
        | gate fields means =>
            obtain ⟨tag, rfl, tagged⟩ := named_eq_singleton_iff.mp fields
            simp [shapeKind, tagged, means]
    | emptyBoundary _ side fields =>
        obtain ⟨tag, rfl, tagged⟩ := named_eq_singleton_iff.mp fields
        exact (isSome_boundary_iff _).mpr ⟨side, tagged⟩

theorem accepts_node : Accepts shapeNode (NodeForm .lenient) := by
  intro tree
  constructor
  · intro accepted
    unfold shapeNode at accepted
    split at accepted
    · obtain ⟨kind, means⟩ := Option.isSome_iff_exists.mp accepted
      obtain ⟨fields, names, means⟩ := Option.bind_eq_some_iff.mp means
      exact .object names
        ((isSome_field_iff accepts_kind _ _).mp (Option.isSome_of_eq_some means))
    · unfold shapeSingle at accepted
      split at accepted
      · exact .list rfl ((accepts_kind _).mp accepted)
      · contradiction
  · intro node
    cases node with
    | object names field =>
        have means := (isSome_field_iff accepts_kind _ _).mpr field
        simpa [shapeNode, names] using means
    | list _ kind => exact (accepts_kind _).mpr kind

theorem accepts_wire : Accepts shapeWire (WireForm .lenient) := by
  intro tree
  rw [shapeWire, Option.isSome_map]
  exact accepts_record "source" "sink" accepts_text (accepts_pair accepts_text accepts_text) tree

theorem accepts_circuit : Accepts shapeCircuit (CircuitForm .lenient) := by
  intro tree
  rw [shapeCircuit, Option.isSome_map]
  exact accepts_record "nodes" "edges" (accepts_table accepts_node)
    (accepts_table (accepts_list accepts_wire)) tree

theorem accepts_document : Accepts shapeDocument (DocumentForm .lenient) := by
  intro tree
  rw [shapeDocument, Option.isSome_map]
  exact accepts_table accepts_circuit tree

end Accepting

namespace Document

theorem parse_isOk_iff (text : String) :
    (∃ document, parse text = .ok document) ↔
      ∃ tree, IsText text tree ∧ DocumentForm .lenient tree := by
  simp only [parse, decode_eq_ok_iff readDocument_exact, ← accepts_document _,
    Option.isSome_iff_exists]
  constructor
  · rintro ⟨document, tree, spelled, means⟩
    exact ⟨tree, spelled, document, means⟩
  · rintro ⟨tree, spelled, document, means⟩
    exact ⟨document, tree, spelled, means⟩

/-- A text that is refused is malformed input, and nothing is done for it. -/
theorem refused_of_not_form {text : String}
    (different : ∀ tree, IsText text tree → ¬ DocumentForm .lenient tree) :
    ∃ complaint, parse text = .error complaint ∧
      ∀ (σ : Type) (renderer : Renderer σ) (settings : Settings) (state : σ),
        runSource renderer settings text state =
          ⟨.error (.malformedInput complaint), [], state⟩ := by
  cases parsed : parse text with
  | ok document =>
      obtain ⟨tree, spelled, formed⟩ := (parse_isOk_iff text).mp ⟨document, parsed⟩
      exact absurd formed (different tree spelled)
  | error complaint =>
      refine ⟨complaint, rfl, fun σ renderer settings state => ?_⟩
      rw [runSource, parsed]

/-- A text is read as a document just if it is one value, of the form that reading takes. That is
the described form, or one with lists of members for objects or with empty boundaries. Any other
text is malformed input. -/
theorem read_iff_form (text : String) :
    ((∃ document, parse text = .ok document) ↔
      ∃ tree, (∀ other, IsText text other ↔ other = tree) ∧ DocumentForm .lenient tree) ∧
    (∀ tree, DocumentForm .documented tree → DocumentForm .lenient tree) ∧
    ((∀ tree, IsText text tree → ¬ DocumentForm .lenient tree) →
      ∃ complaint, parse text = .error complaint ∧
        ∀ (σ : Type) (renderer : Renderer σ) (settings : Settings) (state : σ),
          runSource renderer settings text state =
            ⟨.error (.malformedInput complaint), [], state⟩) := by
  refine ⟨?_, fun _ => DocumentForm.lenient, refused_of_not_form⟩
  rw [parse_isOk_iff]
  constructor
  · rintro ⟨tree, spelled, formed⟩
    refine ⟨tree, fun other => ⟨isText_unique spelled, ?_⟩, formed⟩
    rintro rfl
    exact spelled
  · rintro ⟨tree, only, formed⟩
    exact ⟨tree, (only tree).mpr rfl, formed⟩

section Instances

/-- A document of one circuit with one node, which has this type. -/
def oneNode (kind : Value) : Value :=
  .object [("c", .object [("nodes", .object [("a", .object [("type_", kind)])]),
    ("edges", .object [])])]

theorem kindForm_of_oneNode {dialect : Dialect} {kind : Value}
    (document : DocumentForm dialect (oneNode kind).tree) : KindForm dialect kind.tree := by
  have circuit : CircuitForm dialect _ :=
    TableForm.each_member document _ (List.mem_singleton_self _)
  have nodes := RecordForm.first_member circuit
  exact (nodes.each_member _ (List.mem_singleton_self _)).first_member

theorem written_null : Value.null.Written where
  compact rest := .null rest
  pretty level rest := by
    rw [Value.tree, Value.prettyAt]
    exact .null rest

theorem written_member (name : String) {value : Value} (written : value.Written) :
    (Value.object [(name, value)]).Written := by
  apply written_object
  intro member inside
  obtain rfl := List.mem_singleton.mp inside
  exact written

theorem written_oneNode {kind : Value} (written : kind.Written) : (oneNode kind).Written := by
  apply written_member
  apply written_object
  intro member inside
  rcases List.mem_pair.mp inside with rfl | rfl
  · exact written_member "a" (written_member "type_" written)
  · exact written_object (by simp)

theorem not_kindForm_unknown (dialect : Dialect) :
    ¬ KindForm dialect (Value.text "Wire").tree := by
  intro kind
  rw [Value.tree] at kind
  cases kind with
  | plain plain =>
      cases plain with
      | input means => simp at means
      | output means => simp at means

/-- A kind that there is not makes the whole text malformed. -/
theorem unknown_kind_read_iff_form :
    (∀ tree, IsText (oneNode (.text "Wire")).compact tree → ¬ DocumentForm .lenient tree) ∧
      ∃ complaint, parse (oneNode (.text "Wire")).compact = .error complaint := by
  have different : ∀ tree, IsText (oneNode (.text "Wire")).compact tree →
      ¬ DocumentForm .lenient tree := by
    intro tree spelled formed
    obtain rfl := isText_unique (written_oneNode (written_text "Wire")).isText_compact spelled
    exact not_kindForm_unknown .lenient (kindForm_of_oneNode formed)
  obtain ⟨complaint, refused, -⟩ := (read_iff_form _).2.2 different
  exact ⟨different, complaint, refused⟩

/-- An empty boundary is read, though no description has it. -/
theorem empty_boundary_read :
    (oneNode (.object [("Input", .null)])).compact =
        "\x7b\"c\":\x7b\"nodes\":\x7b\"a\":\x7b\"type_\":\x7b\"Input\":null\x7d\x7d\x7d" ++
          ",\"edges\":\x7b\x7d\x7d\x7d" ∧
      (∃ document, parse (oneNode (.object [("Input", .null)])).compact = .ok document) ∧
      ∀ tree, IsText (oneNode (.object [("Input", .null)])).compact tree →
        ¬ DocumentForm .documented tree := by
  have spelled := (written_oneNode (written_member "Input" written_null)).isText_compact
  refine ⟨by decide +kernel, ?_, ?_⟩
  · have means : (shapeDocument (oneNode (.object [("Input", .null)])).tree).isSome = true := by
      decide +kernel
    obtain ⟨document, means⟩ := Option.isSome_iff_exists.mp means
    exact ⟨document,
      (decode_eq_ok_iff readDocument_exact .whole _ document).mpr ⟨_, spelled, means⟩⟩
  · intro tree otherSpelled formed
    obtain rfl := isText_unique spelled otherSpelled
    have kind := kindForm_of_oneNode formed
    rw [Value.tree] at kind
    cases kind with
    | plain plain =>
        cases plain with
        | gate fields =>
            rw [named_memberTreesOf] at fields
            simp at fields
    | emptyBoundary allowed => contradiction

end Instances

end Document

end CircuitDiagram
