import CircuitDiagram.Proofs.Dot.Reader

/-!
What is written as DOT is read back: the name, the nodes and the wires, each in order, and nothing
else. Whatever stands in a name, a label or a pin is escaped so that it ends no token.
-/

namespace CircuitDiagram.Dot

variable {Mode Item α : Type}

section Scanning

variable {step : Mode → Char → Option (Mode × List Item)} {mode next last : Mode}
  {chars others : List Char} {items more : List Item}

theorem scan_append (first : scan step mode chars = some (next, items))
    (second : scan step next others = some (last, more)) :
    scan step mode (chars ++ others) = some (last, items ++ more) := by
  induction chars generalizing mode items with
  | nil =>
      cases first
      exact second
  | cons character chars ih =>
      obtain ⟨taken, stepped, rest⟩ := Option.bind_eq_some_iff.mp first
      obtain ⟨behind, scanned, same⟩ := Option.map_eq_some_iff.mp rest
      cases same
      have both := ih scanned
      simp [scan, stepped, both]

theorem scan_flatMap {write : α → List Char} {item : α → List Item}
    (each : ∀ value, scan step mode (write value) = some (mode, item value)) (values : List α) :
    scan step mode (values.flatMap write) = some (mode, values.flatMap item) := by
  induction values with
  | nil => rfl
  | cons value values ih => exact scan_append (each value) ih

/-- What is read of each value is gathered last character first. -/
theorem scan_gather {gathering : List Char → Mode} {write read : α → List Char}
    (each : ∀ text value, scan step (gathering text) (write value) =
      some (gathering ((read value).reverse ++ text), [])) (values : List α) (text : List Char) :
    scan step (gathering text) (values.flatMap write) =
      some (gathering ((values.flatMap read).reverse ++ text), []) := by
  induction values generalizing text with
  | nil => rfl
  | cons value values ih =>
      have both := scan_append (each text value) (ih _)
      simpa using both

end Scanning

section Quotes

theorem scan_quoteCharacter (text : List Char) (character : Char) :
    scan lex (.quoted text) (quoteCharacter character) =
      some (.quoted (character :: text), []) := by
  by_cases backslash : character = '\\'
  · subst backslash
    rfl
  · by_cases quote : character = '"'
    · subst quote
      rfl
    · by_cases newLine : character = '\n'
      · subst newLine
        rfl
      · simp [quoteCharacter, scan, lex, backslash, quote, newLine]

theorem scan_quoted (chars text : List Char) :
    scan lex (.quoted text) (chars.flatMap quoteCharacter) =
      some (.quoted (chars.reverse ++ text), []) := by
  have each (text : List Char) (character : Char) :
      scan lex (.quoted text) (quoteCharacter character) =
        some (.quoted ([character].reverse ++ text), []) :=
    scan_quoteCharacter text character
  have gathered := scan_gather each chars text
  rwa [List.flatMap_singleton'] at gathered

/-- The text is tokens from end to end. -/
def Lexes (text : String) (tokens : List Token) : Prop :=
  scan lex .between text.toList = some (.between, tokens)

instance (text : String) (tokens : List Token) : Decidable (Lexes text tokens) :=
  inferInstanceAs (Decidable (_ = _))

theorem Lexes.append {text other : String} {tokens others : List Token}
    (lexes : Lexes text tokens) (lexesOther : Lexes other others) :
    Lexes (text ++ other) (tokens ++ others) := by
  rw [Lexes, String.toList_append]
  exact scan_append lexes lexesOther

theorem lexes_quote (name : String) : Lexes (quote name) [.quoted name.toList] := by
  have opening : scan lex .between ['"'] = some (.quoted [], []) := rfl
  have closing (text : List Char) :
      scan lex (.quoted text) ['"'] = some (.between, [.quoted text.reverse]) := rfl
  have inside := scan_quoted name.toList []
  rw [List.append_nil] at inside
  have whole := scan_append (scan_append opening inside) (closing _)
  simpa [Lexes, quote] using whole

end Quotes

section Html

def escapeCharacter (character : Char) : List Char :=
  if character = '&' then "&amp;".toList
  else if character = '<' then "&lt;".toList
  else if character = '>' then "&gt;".toList
  else if character = '"' then "&quot;".toList
  else [character]

/-- A character is one of the four that are escaped, or stands for itself. -/
theorem escapeCharacter_cases (character : Char) :
    character = '&' ∨ character = '<' ∨ character = '>' ∨ character = '"' ∨
      (character ≠ '&' ∧ character ≠ '<' ∧ character ≠ '>' ∧ character ≠ '"' ∧
        escapeCharacter character = [character]) := by
  by_cases ampersand : character = '&'
  · exact .inl ampersand
  · by_cases less : character = '<'
    · exact .inr (.inl less)
    · by_cases greater : character = '>'
      · exact .inr (.inr (.inl greater))
      · by_cases quote : character = '"'
        · exact .inr (.inr (.inr (.inl quote)))
        · simp [escapeCharacter, ampersand, less, greater, quote]

/-- The escapes made one after the other come to one escape for each character, because none
touches what an earlier one has written. -/
theorem toList_escapeHtml (text : String) :
    (escapeHtml text).toList = text.toList.flatMap escapeCharacter := by
  rw [escapeHtml, String.toList_ofList]
  simp only [substitute, List.flatMap_assoc]
  congr 1
  funext character
  rcases escapeCharacter_cases character with
    rfl | rfl | rfl | rfl | ⟨ampersand, less, greater, quote, itself⟩
  · rfl
  · rfl
  · rfl
  · rfl
  · simp only [itself, if_neg ampersand, if_neg less, if_neg greater, if_neg quote,
      List.flatMap_cons, List.flatMap_nil, List.append_nil]

/-- Nothing that is written for a character holds a bracket or a quote. -/
theorem plain_of_mem_escapeCharacter {character written : Char}
    (inside : written ∈ escapeCharacter character) :
    written ≠ '<' ∧ written ≠ '>' ∧ written ≠ '"' := by
  have all : (escapeCharacter character).all fun written =>
      written != '<' && written != '>' && written != '"' := by
    rcases escapeCharacter_cases character with
      rfl | rfl | rfl | rfl | ⟨_, less, greater, quote, itself⟩
    · rfl
    · rfl
    · rfl
    · rfl
    · simp [itself, less, greater, quote]
  simpa [and_assoc] using List.all_eq_true.mp all written inside

theorem plain_of_mem_escaped {text : List Char} :
    ∀ character ∈ text.flatMap escapeCharacter,
      character ≠ '<' ∧ character ≠ '>' ∧ character ≠ '"' := by
  intro character inside
  obtain ⟨_, _, written⟩ := List.mem_flatMap.mp inside
  exact plain_of_mem_escapeCharacter written

-- No escape holds an angle bracket, so the depth stays as it was.
theorem scan_html_escapeCharacter (depth : Nat) (content : List Char) (character : Char) :
    scan lex (.html depth content) (escapeCharacter character) =
      some (.html depth ((escapeCharacter character).reverse ++ content), []) := by
  rcases escapeCharacter_cases character with
    rfl | rfl | rfl | rfl | ⟨_, less, greater, _, itself⟩
  · rfl
  · rfl
  · rfl
  · rfl
  · simp [itself, scan, lex, less, greater]

/-- What is written for one character is read as one character. -/
theorem scan_escapeCharacter (character : Char) :
    scan readMarkup .text (escapeCharacter character) =
      some (.text, [.character character]) := by
  rcases escapeCharacter_cases character with
    rfl | rfl | rfl | rfl | ⟨ampersand, less, greater, _, itself⟩
  · rfl
  · rfl
  · rfl
  · rfl
  · simp [itself, scan, readMarkup, ampersand, less, greater]

theorem scan_html_escaped (depth : Nat) (chars content : List Char) :
    scan lex (.html depth content) (chars.flatMap escapeCharacter) =
      some (.html depth ((chars.flatMap escapeCharacter).reverse ++ content), []) :=
  scan_gather (scan_html_escapeCharacter depth) chars content

@[irreducible]
def tableHead : List Char := "<TABLE><TR><TD>".toList

@[irreducible]
def tableMiddle : List Char := "</TD></TR><TR><TD><B>".toList

@[irreducible]
def tableEnd : List Char := "</B></TD></TR></TABLE>".toList

/-- What is between the outer brackets of a table. -/
def tableContent (id label : String) : List Char :=
  tableHead ++ id.toList.flatMap escapeCharacter ++ tableMiddle ++
    label.toList.flatMap escapeCharacter ++ tableEnd

theorem toList_table (id label : String) :
    (table id label).toList = ['<'] ++ tableContent id label ++ ['>'] := by
  have opening : "<<TABLE><TR><TD>".toList = ['<'] ++ tableHead := by decide +kernel
  have middle : "</TD></TR><TR><TD><B>".toList = tableMiddle := by decide +kernel
  have closing : "</B></TD></TR></TABLE>>".toList = tableEnd ++ ['>'] := by decide +kernel
  unfold table tableContent
  rw [String.toList_append, String.toList_append, String.toList_append, String.toList_append,
    toList_escapeHtml, toList_escapeHtml, opening, middle, closing]
  simp only [List.append_assoc]

theorem not_mem_quote_table (id label : String) : '"' ∉ (table id label).toList := by
  have escaped (text : String) : '"' ∉ text.toList.flatMap escapeCharacter := by
    intro inside
    exact (plain_of_mem_escaped '"' inside).2.2 rfl
  have tags : '"' ∉ tableHead ∧ '"' ∉ tableMiddle ∧ '"' ∉ tableEnd := by decide +kernel
  rw [toList_table, tableContent]
  simp [escaped, tags]

/-- The tags of a table are balanced as they stand between its texts. -/
theorem scan_html_tags (content : List Char) :
    scan lex (.html 0 content) tableHead = some (.html 0 (tableHead.reverse ++ content), []) ∧
      scan lex (.html 0 content) tableMiddle =
        some (.html 0 (tableMiddle.reverse ++ content), []) ∧
      scan lex (.html 0 content) tableEnd = some (.html 0 (tableEnd.reverse ++ content), []) := by
  unfold tableHead tableMiddle tableEnd
  simp only [String.reduceToList]
  exact ⟨rfl, rfl, rfl⟩

theorem lexes_table (id label : String) :
    Lexes (table id label) [.html (tableContent id label)] := by
  have opening : scan lex .between ['<'] = some (.html 0 [], []) := rfl
  have closing (content : List Char) :
      scan lex (.html 0 content) ['>'] = some (.between, [.html content.reverse]) := rfl
  have idRow := scan_append (scan_html_tags []).1 (scan_html_escaped 0 id.toList _)
  have labelRow := scan_append (scan_append idRow (scan_html_tags _).2.1)
    (scan_html_escaped 0 label.toList _)
  have content := scan_append labelRow (scan_html_tags _).2.2
  have whole := scan_append (scan_append opening content) (closing _)
  unfold Lexes
  rw [toList_table]
  refine whole.trans ?_
  simp only [tableContent, List.reverse_append, List.reverse_reverse, List.append_assoc,
    List.nil_append, List.append_nil]

def tags (names : List String) : List Piece :=
  names.map fun name => .tag name.toList

theorem pieces_tableContent (id label : String) :
    pieces? (tableContent id label) =
      some (tags ["TABLE", "TR", "TD"] ++ id.toList.map .character ++
        tags ["/TD", "/TR", "TR", "TD", "B"] ++ label.toList.map .character ++
        tags ["/B", "/TD", "/TR", "/TABLE"]) := by
  have text (chars : List Char) :
      scan readMarkup .text (chars.flatMap escapeCharacter) =
        some (.text, chars.map .character) := by
    rw [scan_flatMap scan_escapeCharacter, List.map_eq_flatMap]
  have tagged : scan readMarkup .text tableHead = some (.text, tags ["TABLE", "TR", "TD"]) ∧
      scan readMarkup .text tableMiddle = some (.text, tags ["/TD", "/TR", "TR", "TD", "B"]) ∧
      scan readMarkup .text tableEnd =
        some (.text, tags ["/B", "/TD", "/TR", "/TABLE"]) := by
    decide +kernel
  have first := scan_append (scan_append tagged.1 (text id.toList)) tagged.2.1
  have whole := scan_append (scan_append first (text label.toList)) tagged.2.2
  simp only [pieces?, tableContent, whole]

-- No character of a text is taken for a tag, whatever the text looks like.
theorem splitText_append (chars : List Char) (pieces : List Piece) :
    splitText (chars.map .character ++ pieces) =
      (chars ++ (splitText pieces).1, (splitText pieces).2) := by
  induction chars with
  | nil => rfl
  | cons character chars ih => simp [splitText, ih]

theorem splitText_tags (name : String) (names : List String) (rest : List Piece) :
    splitText (tags (name :: names) ++ rest) = ([], tags (name :: names) ++ rest) := rfl

theorem behindTags_append (names : List String) (rest : List Piece) :
    behindTags? names (tags names ++ rest) = some rest := by
  induction names with
  | nil => rfl
  | cons name names ih => simpa [behindTags?, tags] using ih

theorem rows_tableContent (id label : String) :
    rows? (tableContent id label) = some (id, label) := by
  have lastSplit : splitText (tags ["/B", "/TD", "/TR", "/TABLE"]) =
    ([], tags ["/B", "/TD", "/TR", "/TABLE"]) := rfl
  have last := behindTags_append ["/B", "/TD", "/TR", "/TABLE"] []
  rw [List.append_nil] at last
  rw [rows?, pieces_tableContent]
  simp only [List.append_assoc, Option.bind_eq_bind, Option.bind_some, behindTags_append,
    splitText_append, splitText_tags, lastSplit, last, List.append_nil, if_true,
    String.ofList_toList]

end Html

section Statements

/-- A node with the rows of its table, if it has one: its id again, and the label of its kind. -/
def Statement.ofNode (node : Node) : Statement :=
  .node node.id (node.kind.map fun kind => (node.id, kind.label))

def Statement.ofWire (style : Style) (wire : Wire) : Statement :=
  .wire wire.source wire.sink (if style.edgeLabels then some wire.pin else none)

def nodeTokens (node : Node) : List Token :=
  match node.kind with
  | some kind =>
      [.quoted node.id.toList, .openBracket, .word "label".toList, .equals,
        .html (tableContent node.id kind.label), .closeBracket, .semicolon]
  | none => [.quoted node.id.toList, .semicolon]

def wireTokens (style : Style) (wire : Wire) : List Token :=
  if style.edgeLabels then
    [.quoted wire.source.toList, .arrow, .quoted wire.sink.toList, .openBracket,
      .word "label".toList, .equals, .quoted wire.pin.toList, .closeBracket, .semicolon]
  else [.quoted wire.source.toList, .arrow, .quoted wire.sink.toList, .semicolon]

/-- The text is made of quoted names, and of tokens without a quote. -/
inductive Spelled : String → List Token → Prop
  | quoted (name : String) : Spelled (quote name) [.quoted name.toList]
  | plain {text : String} {tokens : List Token} (reads : Lexes text tokens ∧ '"' ∉ text.toList) :
      Spelled text tokens
  | append {text other : String} {tokens others : List Token} (first : Spelled text tokens)
      (second : Spelled other others) : Spelled (text ++ other) (tokens ++ others)

theorem Spelled.lexes {text : String} {tokens : List Token} (spelled : Spelled text tokens) :
    Lexes text tokens := by
  induction spelled with
  | quoted name => exact lexes_quote name
  | plain reads => exact reads.1
  | append _ _ first second => exact first.append second

theorem spelled_label : Spelled " [label=" [.openBracket, .word "label".toList, .equals] :=
  .plain (by decide +kernel)

theorem spelled_line {statement : String} {tokens : List Token}
    (spelled : Spelled statement tokens) : Spelled (line statement) (tokens ++ [.semicolon]) := by
  have indent : Spelled "  " [] := .plain (by decide +kernel)
  have ending : Spelled ";\n" [.semicolon] := .plain (by decide +kernel)
  exact (indent.append spelled).append ending

theorem spelled_node (node : Node) : Spelled (line (nodeStatement node)) (nodeTokens node) := by
  have closing : Spelled "]" [.closeBracket] := .plain (by decide +kernel)
  unfold nodeStatement nodeTokens
  cases node.kind with
  | none => exact spelled_line (.quoted node.id)
  | some kind =>
      have rows : Spelled (table node.id kind.label) [.html (tableContent node.id kind.label)] :=
        .plain ⟨lexes_table node.id kind.label, not_mem_quote_table node.id kind.label⟩
      have label := ((Spelled.quoted node.id).append spelled_label).append rows
      exact spelled_line (label.append closing)

theorem spelled_wire (style : Style) (wire : Wire) :
    Spelled (line (wireStatement style wire)) (wireTokens style wire) := by
  have arrow : Spelled " -> " [.arrow] := .plain (by decide +kernel)
  have closing : Spelled "]" [.closeBracket] := .plain (by decide +kernel)
  have nothing : Spelled "" [] := .plain (by decide +kernel)
  have ends := ((Spelled.quoted wire.source).append arrow).append (.quoted wire.sink)
  unfold wireStatement wireTokens
  cases style.edgeLabels with
  | false => exact spelled_line (ends.append nothing)
  | true =>
      have label := (spelled_label.append (.quoted wire.pin)).append closing
      exact spelled_line (ends.append label)

theorem spelled_join {write : α → String} {tokens : α → List Token}
    (each : ∀ value, Spelled (write value) (tokens value)) (values : List α) :
    Spelled (String.join (values.map write)) (values.flatMap tokens) := by
  induction values with
  | nil => exact (.plain (by decide +kernel) : Spelled "" [])
  | cons value values ih =>
      rw [List.map_cons, String.join_cons]
      exact (each value).append ih

theorem spelled_write (style : Style) (name : String) (nodes : List Node) (wires : List Wire) :
    Spelled (write style name nodes wires)
      ([.word "digraph".toList, .quoted name.toList, .openBrace] ++ nodes.flatMap nodeTokens ++
        wires.flatMap (wireTokens style) ++ [.closeBrace]) := by
  have keyword : Spelled "digraph " [.word "digraph".toList] := .plain (by decide +kernel)
  have opening : Spelled " \x7b\n" [.openBrace] := .plain (by decide +kernel)
  have closing : Spelled "\x7d\n" [.closeBrace] := .plain (by decide +kernel)
  have head := (keyword.append (.quoted name)).append opening
  have inside := (head.append (spelled_join spelled_node nodes)).append
    (spelled_join (spelled_wire style) wires)
  exact inside.append closing

-- A statement is told by its own tokens, up to the semicolon, whatever follows.
theorem statements_nodeTokens (node : Node) (rest : List Token) :
    statements? (nodeTokens node ++ rest) =
      (statements? rest).map (Statement.ofNode node :: ·) := by
  unfold nodeTokens Statement.ofNode
  cases node.kind with
  | none => simp [statements?]
  | some kind => simp [statements?, rows_tableContent]

theorem statements_wireTokens (style : Style) (wire : Wire) (rest : List Token) :
    statements? (wireTokens style wire ++ rest) =
      (statements? rest).map (Statement.ofWire style wire :: ·) := by
  unfold wireTokens Statement.ofWire
  cases style.edgeLabels <;> simp [statements?]

theorem statements_flatMap {tokens : α → List Token} {statement : α → Statement}
    (each : ∀ value rest, statements? (tokens value ++ rest) =
      (statements? rest).map (statement value :: ·)) (values : List α) (rest : List Token) :
    statements? (values.flatMap tokens ++ rest) =
      (statements? rest).map (values.map statement ++ ·) := by
  induction values with
  | nil => simp
  | cons value values ih =>
      rw [List.flatMap_cons, List.append_assoc, each, ih, Option.map_map]
      rfl

/-- What is written is read back, all of it and nothing else. -/
theorem read_write (style : Style) (name : String) (nodes : List Node) (wires : List Wire) :
    read? (write style name nodes wires) =
      some ⟨name, nodes.map Statement.ofNode ++ wires.map (Statement.ofWire style)⟩ := by
  have lexes := (spelled_write style name nodes wires).lexes
  have tokens : tokens? (write style name nodes wires) =
      some (.word "digraph".toList :: .quoted name.toList :: .openBrace ::
        (nodes.flatMap nodeTokens ++ (wires.flatMap (wireTokens style) ++ [.closeBrace]))) := by
    rw [tokens?, lexes]
    simp
  have statements := statements_flatMap statements_nodeTokens nodes
    (wires.flatMap (wireTokens style) ++ [.closeBrace])
  rw [statements_flatMap (statements_wireTokens style) wires [.closeBrace]] at statements
  rw [read?, tokens, Option.bind_some, contents?, if_pos rfl, statements]
  simp [statements?]

example : read? (write ⟨false⟩ "a\"; b" [⟨"</TD>\n&lt;", some (.gate "\\\"")⟩] []) =
    some ⟨"a\"; b", [.node "</TD>\n&lt;" (some ("</TD>\n&lt;", "\\\""))]⟩ := by
  decide +kernel

end Statements

section Faithful

variable {style : Style} {name otherName : String} {nodes otherNodes : List Node}
  {wires otherWires : List Wire}

/-- What a node shows of itself: its id, and the label of its kind. -/
def shown (node : Node) : String × Option String :=
  (node.id, node.kind.map Kind.label)

def wireEnds (wire : Wire) : String × String :=
  (wire.source, wire.sink)

/-- Without labels on the wires, the pins do not come into the text. -/
theorem write_unlabelled (same : otherWires.map wireEnds = wires.map wireEnds) :
    write ⟨false⟩ name nodes otherWires = write ⟨false⟩ name nodes wires := by
  have lines (wires : List Wire) :
      wires.map (fun wire => line (wireStatement ⟨false⟩ wire)) =
        (wires.map wireEnds).map fun ends =>
          line (quote ends.1 ++ " -> " ++ quote ends.2 ++ "") := by
    rw [List.map_map]
    rfl
  rw [write, write, lines, lines, same]

def Statement.node? : Statement → Option (String × Option String)
  | .node id rows => some (id, rows.map Prod.snd)
  | .wire _ _ _ => none

theorem node_ofNode (node : Node) : (Statement.ofNode node).node? = some (shown node) := by
  cases kind : node.kind <;> simp [Statement.ofNode, Statement.node?, shown, kind]

/-- The text tells the name, what each node shows, and each wire as far as it is written. -/
theorem write_injective
    (same : write style otherName otherNodes otherWires = write style name nodes wires) :
    otherName = name ∧ otherNodes.map shown = nodes.map shown ∧
      otherWires.map (Statement.ofWire style) = wires.map (Statement.ofWire style) := by
  have read := congrArg read? same
  rw [read_write, read_write, Option.some.injEq, Contents.mk.injEq] at read
  obtain ⟨names, statements⟩ := read
  have nodesOnly (nodes : List Node) (wires : List Wire) :
      (nodes.map Statement.ofNode ++ wires.map (Statement.ofWire style)).filterMap
        Statement.node? = nodes.map shown := by
    have noWire : (wires.map (Statement.ofWire style)).filterMap Statement.node? = [] := by
      simp [Statement.ofWire, Statement.node?]
    have each : Statement.node? ∘ Statement.ofNode = some ∘ shown := funext node_ofNode
    rw [List.filterMap_append, noWire, List.append_nil, List.filterMap_map, each,
      List.filterMap_eq_map]
  have shownSame := congrArg (List.filterMap Statement.node?) statements
  rw [nodesOnly, nodesOnly] at shownSame
  -- There are equally many nodes, so both lists of statements part at the same place.
  have length : (otherNodes.map Statement.ofNode).length = (nodes.map Statement.ofNode).length := by
    simpa using congrArg List.length shownSame
  exact ⟨names, shownSame, (List.append_inj statements length).2⟩

theorem wires_of_labelled
    (same : otherWires.map (Statement.ofWire ⟨true⟩) = wires.map (Statement.ofWire ⟨true⟩)) :
    otherWires = wires := by
  refine (List.map_inj_right ?_).mp same
  intro left right equal
  obtain ⟨source, sink, pin⟩ := left
  obtain ⟨otherSource, otherSink, otherPin⟩ := right
  simpa [Statement.ofWire] using equal

theorem ends_of_unlabelled
    (same : otherWires.map (Statement.ofWire ⟨false⟩) = wires.map (Statement.ofWire ⟨false⟩)) :
    otherWires.map wireEnds = wires.map wireEnds := by
  have parts (wires : List Wire) : wires.map (Statement.ofWire ⟨false⟩) =
      (wires.map wireEnds).map fun ends => .wire ends.1 ends.2 none := by
    rw [List.map_map]
    rfl
  rw [parts, parts] at same
  refine (List.map_inj_right ?_).mp same
  rintro ⟨source, sink⟩ ⟨otherSource, otherSink⟩ equal
  simpa using equal

/-- Writing is faithful, whatever stands in names, labels and pins. The text is read back as the
name, the nodes and the wires in order; so it tells them all, the pins just if they are written. -/
theorem write_faithful (name : String) (nodes : List Node) (wires : List Wire) :
    read? (write ⟨true⟩ name nodes wires) =
        some ⟨name,
          nodes.map (fun node => .node node.id (node.kind.map fun kind => (node.id, kind.label))) ++
            wires.map fun wire => .wire wire.source wire.sink (some wire.pin)⟩ ∧
      read? (write ⟨false⟩ name nodes wires) =
        some ⟨name,
          nodes.map (fun node => .node node.id (node.kind.map fun kind => (node.id, kind.label))) ++
            wires.map fun wire => .wire wire.source wire.sink none⟩ ∧
      (∀ otherWires : List Wire, otherWires.map wireEnds = wires.map wireEnds →
        write ⟨false⟩ name nodes otherWires = write ⟨false⟩ name nodes wires) ∧
      (∀ otherName otherNodes otherWires,
        write ⟨true⟩ otherName otherNodes otherWires = write ⟨true⟩ name nodes wires →
          otherName = name ∧ otherNodes.map shown = nodes.map shown ∧ otherWires = wires) ∧
      (∀ otherName otherNodes otherWires,
        write ⟨false⟩ otherName otherNodes otherWires = write ⟨false⟩ name nodes wires →
          otherName = name ∧ otherNodes.map shown = nodes.map shown ∧
            otherWires.map wireEnds = wires.map wireEnds) ∧
      ∀ graph : Graph, graph.name = name → graph.nodes = nodes → graph.wires = wires →
        ∀ style, graph.toDot style = write style name nodes wires := by
  refine ⟨read_write ⟨true⟩ name nodes wires, read_write ⟨false⟩ name nodes wires,
    fun _ same => write_unlabelled same, ?_, ?_, ?_⟩
  · intro otherName otherNodes otherWires same
    obtain ⟨names, shownSame, written⟩ := write_injective same
    exact ⟨names, shownSame, wires_of_labelled written⟩
  · intro otherName otherNodes otherWires same
    obtain ⟨names, shownSame, written⟩ := write_injective same
    exact ⟨names, shownSame, ends_of_unlabelled written⟩
  · rintro graph rfl rfl rfl style
    rfl

end Faithful

end CircuitDiagram.Dot
