import CircuitDiagram.Proofs.Dot.ReadBack
import CircuitDiagram.Proofs.Graph.Multigraph
import CircuitDiagram.Proofs.Graph.OfCircuit

/-!
Names as Graphviz knows them. Of what is escaped in a quoted name it takes back the quotes alone:
a backslash stays a pair, and a line break stays a backslash and a letter. So a node is known by
another name than its own. Still each quoted name is one token, and names that differ are known by
names that differ, so nodes are kept apart and wires end where they should.
-/

namespace CircuitDiagram.Dot

variable {Mode Item : Type}

section Rule

/-- What a backslash and the character behind it come to by the rule of Graphviz: an escaped quote
is a quote, an escaped line break joins two lines, and any other backslash stays, as does a pair. -/
def keptEscape (character : Char) : List Char :=
  if character = '"' then ['"']
  else if character = '\n' then []
  else ['\\', character]

def lexNames : Lexing → Char → Option (Lexing × List Token)
  | .escaped text, character => some (.quoted ((keptEscape character).reverse ++ text), [])
  | mode, character => lex mode character

def firstItem? (step : Mode → Char → Option (Mode × List Item)) :
    Mode → List Char → Option (Item × List Char)
  | _, [] => none
  | mode, character :: rest =>
      match step mode character with
      | none => none
      | some (next, []) => firstItem? step next rest
      | some (_, item :: _) => some (item, rest)

def keptCharacter (character : Char) : List Char :=
  if character = '"' then ['"'] else quoteCharacter character

/-- The name that Graphviz reads where a name is written. -/
def knownAs (name : String) : String :=
  String.ofList (name.toList.flatMap keptCharacter)

end Rule

section Quoted

theorem scan_keptCharacter (text : List Char) (character : Char) :
    scan lexNames (.quoted text) (quoteCharacter character) =
      some (.quoted ((keptCharacter character).reverse ++ text), []) := by
  by_cases backslash : character = '\\'
  · subst backslash
    rfl
  · by_cases quote : character = '"'
    · subst quote
      rfl
    · by_cases newLine : character = '\n'
      · subst newLine
        rfl
      · simp [keptCharacter, quoteCharacter, scan, lexNames, lex, backslash, quote, newLine]

-- Up to the last quote, a quoted name is one token that goes on.
theorem scan_opened (name : String) :
    scan lexNames .between ('"' :: name.toList.flatMap quoteCharacter) =
      some (.quoted (knownAs name).toList.reverse, []) := by
  have opening : scan lexNames .between ['"'] = some (.quoted [], []) := rfl
  have inside := scan_append opening (scan_gather scan_keptCharacter name.toList [])
  rw [knownAs, String.toList_ofList]
  simpa using inside

theorem firstItem_append {step : Mode → Char → Option (Mode × List Item)} {mode next : Mode}
    {chars : List Char} (silent : scan step mode chars = some (next, [])) (rest : List Char) :
    firstItem? step mode (chars ++ rest) = firstItem? step next rest := by
  induction chars generalizing mode with
  | nil =>
      cases silent
      rfl
  | cons character chars ih =>
      obtain ⟨taken, stepped, later⟩ := Option.bind_eq_some_iff.mp silent
      obtain ⟨behind, scanned, same⟩ := Option.map_eq_some_iff.mp later
      obtain ⟨after, items⟩ := taken
      obtain ⟨last, more⟩ := behind
      simp only [Prod.mk.injEq, List.append_eq_nil_iff] at same
      obtain ⟨rfl, rfl, rfl⟩ := same
      simp only [List.cons_append, firstItem?, stepped, ih scanned]

/-- A quoted name is one token up to its last quote, whatever follows. -/
theorem firstItem_quote (name : String) (rest : List Char) :
    firstItem? lexNames .between ((quote name).toList ++ rest) =
      some (.quoted (knownAs name).toList, rest) := by
  have written : (quote name).toList ++ rest =
      ('"' :: name.toList.flatMap quoteCharacter) ++ '"' :: rest := by
    simp [quote]
  rw [written, firstItem_append (scan_opened name)]
  simp [firstItem?, lexNames, lex]

-- A pair of backslashes in front of the last quote does not escape it.
example : firstItem? lexNames .between "\"\\\"\\\\\";".toList =
    some (.quoted ['"', '\\', '\\'], [';']) := by
  decide +kernel

end Quoted

section Apart

/-- Takes back what is kept of a name: what a backslash stands for is told by the next character. -/
def original : List Char → List Char
  | [] => []
  | '\\' :: 'n' :: rest => '\n' :: original rest
  | '\\' :: '\\' :: rest => '\\' :: original rest
  | character :: rest => character :: original rest

theorem original_of_ne {character : Char} (different : character ≠ '\\') (rest : List Char) :
    original (character :: rest) = character :: original rest := by
  rw [original] <;> simp [different]

theorem original_keptCharacter (character : Char) (rest : List Char) :
    original (keptCharacter character ++ rest) = character :: original rest := by
  by_cases backslash : character = '\\'
  · subst backslash
    rfl
  · by_cases newLine : character = '\n'
    · subst newLine
      rfl
    · have itself : keptCharacter character = [character] := by
        by_cases quote : character = '"'
        · subst quote
          rfl
        · simp [keptCharacter, quoteCharacter, backslash, quote, newLine]
      rw [itself, List.singleton_append, original_of_ne backslash]

theorem original_kept (chars : List Char) : original (chars.flatMap keptCharacter) = chars := by
  induction chars with
  | nil => rfl
  | cons character chars ih => rw [List.flatMap_cons, original_keptCharacter, ih]

theorem knownAs_inj {name other : String} : knownAs name = knownAs other ↔ name = other := by
  constructor
  · intro same
    rw [knownAs, knownAs, String.ofList_inj] at same
    have chars := congrArg original same
    rwa [original_kept, original_kept, String.toList_inj] at chars
  · rintro rfl
    rfl

end Apart

section Texts

def Token.known : Token → Token
  | .quoted text => .quoted (text.flatMap keptCharacter)
  | token => token

def Lexing.Outside : Lexing → Prop
  | .quoted _ | .escaped _ => False
  | _ => True

theorem known_of_mark {character : Char} {mark : Token} (found : mark? character = some mark) :
    mark.known = mark := by
  cases mark with
  | quoted text => grind [mark?]
  | _ => rfl

theorem outside_of_begin {character : Char} {mode : Lexing} {tokens : List Token}
    (noQuote : character ≠ '"') (begun : begin? character = some (mode, tokens)) :
    mode.Outside ∧ tokens.map Token.known = tokens := by
  rw [begin?, if_neg noQuote] at begun
  split at begun
  · cases begun
    exact ⟨trivial, rfl⟩
  · split at begun
    · cases begun
      exact ⟨trivial, rfl⟩
    · split at begun
      · cases begun
        exact ⟨trivial, rfl⟩
      · split at begun
        · cases begun
          exact ⟨trivial, rfl⟩
        · obtain ⟨mark, found, same⟩ := Option.map_eq_some_iff.mp begun
          cases same
          exact ⟨trivial, by rw [List.map_singleton, known_of_mark found]⟩

-- What is inside quotes does not begin without a quote.
theorem lexNames_outside {mode next : Lexing} {character : Char} {tokens : List Token}
    (outside : mode.Outside) (noQuote : character ≠ '"')
    (stepped : lex mode character = some (next, tokens)) :
    lexNames mode character = some (next, tokens) ∧ next.Outside ∧
      tokens.map Token.known = tokens := by
  cases mode with
  | quoted text => exact outside.elim
  | escaped text => exact outside.elim
  | between => exact ⟨stepped, outside_of_begin noQuote stepped⟩
  | word letters =>
      refine ⟨stepped, ?_⟩
      simp only [lex] at stepped
      split at stepped
      · cases stepped
        exact ⟨trivial, rfl⟩
      · obtain ⟨⟨begun, others⟩, started, same⟩ := Option.map_eq_some_iff.mp stepped
        cases same
        obtain ⟨outside, known⟩ := outside_of_begin noQuote started
        exact ⟨outside, by rw [List.map_cons, known]; rfl⟩
  | html depth content =>
      refine ⟨stepped, ?_⟩
      simp only [lex] at stepped
      split at stepped
      · cases stepped
        exact ⟨trivial, rfl⟩
      · split at stepped
        · cases depth with
          | zero =>
              cases stepped
              exact ⟨trivial, rfl⟩
          | succ outer =>
              cases stepped
              exact ⟨trivial, rfl⟩
        · cases stepped
          exact ⟨trivial, rfl⟩
  | dash =>
      refine ⟨stepped, ?_⟩
      simp only [lex] at stepped
      split at stepped
      · cases stepped
        exact ⟨trivial, rfl⟩
      · cases stepped

theorem scan_outside {mode next : Lexing} {chars : List Char} {tokens : List Token}
    (outside : mode.Outside) (noQuote : '"' ∉ chars)
    (scanned : scan lex mode chars = some (next, tokens)) :
    scan lexNames mode chars = some (next, tokens.map Token.known) := by
  induction chars generalizing mode tokens with
  | nil =>
      cases scanned
      rfl
  | cons character chars ih =>
      rw [List.mem_cons, not_or] at noQuote
      obtain ⟨⟨after, items⟩, stepped, later⟩ := Option.bind_eq_some_iff.mp scanned
      obtain ⟨⟨last, others⟩, rest, same⟩ := Option.map_eq_some_iff.mp later
      cases same
      obtain ⟨agrees, outsideAfter, known⟩ := lexNames_outside outside (Ne.symm noQuote.1) stepped
      simp [scan, agrees, ih outsideAfter noQuote.2 rest, known]

/-- Graphviz finds the same tokens in a text, with the names by which it knows them. -/
theorem Spelled.names {text : String} {tokens : List Token} (spelled : Spelled text tokens) :
    scan lexNames .between text.toList = some (.between, tokens.map Token.known) := by
  induction spelled with
  | quoted name =>
      have closing (text : List Char) :
          scan lexNames (.quoted text) ['"'] = some (.between, [.quoted text.reverse]) := rfl
      have whole := scan_append (scan_opened name) (closing _)
      simpa [quote, Token.known, knownAs] using whole
  | plain reads => exact scan_outside trivial reads.2 reads.1
  | append _ _ first second =>
      rw [String.toList_append, List.map_append]
      exact scan_append first second

end Texts

section Statements

def Statement.known : Statement → Statement
  | .node id rows => .node (knownAs id) rows
  | .wire source sink label => .wire (knownAs source) (knownAs sink) (label.map knownAs)

def Contents.known (contents : Contents) : Contents :=
  ⟨knownAs contents.name, contents.statements.map Statement.known⟩

def readNames? (text : String) : Option Contents :=
  match scan lexNames .between text.toList with
  | some (.between, tokens) => contents? tokens
  | _ => none

theorem ofList_kept (text : List Char) :
    String.ofList (text.flatMap keptCharacter) = knownAs (String.ofList text) := by
  rw [knownAs, String.toList_ofList]

theorem statements_known {tokens : List Token} {statements : List Statement}
    (read : statements? tokens = some statements) :
    statements? (tokens.map Token.known) = some (statements.map Statement.known) := by
  fun_induction statements? tokens generalizing statements with
  | case1 =>
      cases read
      rfl
  | case2 id rest ih =>
      obtain ⟨others, later, rfl⟩ := Option.map_eq_some_iff.mp read
      simp [Token.known, statements?, ih later, Statement.known, ofList_kept]
  | case3 id content rest ih =>
      obtain ⟨rows, table, read⟩ := Option.bind_eq_some_iff.mp read
      obtain ⟨others, later, rfl⟩ := Option.map_eq_some_iff.mp read
      simp [Token.known, statements?, table, ih later, Statement.known, ofList_kept]
  | case5 source sink rest ih =>
      obtain ⟨others, later, rfl⟩ := Option.map_eq_some_iff.mp read
      simp [Token.known, statements?, ih later, Statement.known, ofList_kept]
  | case6 source sink label rest ih =>
      obtain ⟨others, later, rfl⟩ := Option.map_eq_some_iff.mp read
      simp [Token.known, statements?, ih later, Statement.known, ofList_kept]
  | case4 => cases read
  | case7 => cases read
  | case8 => cases read

theorem contents_known {tokens : List Token} {contents : Contents}
    (read : contents? tokens = some contents) :
    contents? (tokens.map Token.known) = some contents.known := by
  unfold contents? at read
  split at read
  · split at read
    · rename_i name rest keyword same
      obtain ⟨statements, later, rfl⟩ := Option.map_eq_some_iff.mp read
      simp [Token.known, contents?, same, statements_known later, Contents.known, ofList_kept]
    · cases read
  · cases read

/-- Graphviz reads what is written, under the names by which it knows it. -/
theorem readNames_write (style : Style) (name : String) (nodes : List Node) (wires : List Wire) :
    readNames? (write style name nodes wires) =
      some ⟨knownAs name, (nodes.map Statement.ofNode ++
        wires.map (Statement.ofWire style)).map Statement.known⟩ := by
  have spelled := spelled_write style name nodes wires
  have read := read_write style name nodes wires
  have lexes := spelled.lexes
  rw [Lexes] at lexes
  rw [read?, tokens?, lexes, Option.bind_some] at read
  have known := contents_known read
  simp only [readNames?, spelled.names]
  rw [known, Contents.known]

end Statements

section Endpoints

def knownNode (node : Node) : Statement :=
  .node (knownAs node.id) (node.kind.map fun kind => (node.id, kind.label))

def knownWire (style : Style) (wire : Wire) : Statement :=
  .wire (knownAs wire.source) (knownAs wire.sink)
    (if style.edgeLabels then some (knownAs wire.pin) else none)

def Statement.declares (name : String) : Statement → Bool
  | .node id _ => id == name
  | .wire _ _ _ => false

theorem known_statements (style : Style) (nodes : List Node) (wires : List Wire) :
    (nodes.map Statement.ofNode ++ wires.map (Statement.ofWire style)).map Statement.known =
      nodes.map knownNode ++ wires.map (knownWire style) := by
  have wire (wire : Wire) : (Statement.ofWire style wire).known = knownWire style wire := by
    unfold Statement.ofWire knownWire
    split <;> rfl
  rw [List.map_append, List.map_map, List.map_map]
  exact congrArg₂ _ rfl (List.map_congr_left fun other _ => wire other)

theorem declares_knownNode (id : String) (node : Node) :
    (knownNode node).declares (knownAs id) = (node.id == id) := by
  rw [knownNode, Statement.declares, Bool.eq_iff_iff, beq_iff_eq, beq_iff_eq, knownAs_inj]

/-- Just one statement is about a node of the graph: its own. -/
theorem filter_declares {style : Style} {nodes : List Node} {node : Node}
    (distinct : (nodes.map Node.id).Nodup) (inside : node ∈ nodes) (wires : List Wire) :
    (nodes.map knownNode ++ wires.map (knownWire style)).filter
      (Statement.declares (knownAs node.id)) = [knownNode node] := by
  have noWire : (wires.map (knownWire style)).filter
      (Statement.declares (knownAs node.id)) = [] := by
    rw [List.filter_eq_nil_iff]
    intro statement written
    obtain ⟨wire, -, rfl⟩ := List.mem_map.mp written
    exact Bool.false_ne_true
  obtain ⟨before, after, rfl⟩ := List.append_of_mem inside
  rw [List.map_append, List.map_cons, List.nodup_middle, List.nodup_cons, ← List.map_append,
    List.mem_map] at distinct
  have others (other : Node) (elsewhere : other ∈ before ++ after) :
      ¬ (other.id == node.id) = true := by
    rw [beq_iff_eq]
    exact fun same => distinct.1 ⟨other, elsewhere, same⟩
  have single : (before ++ node :: after).filter (fun other => other.id == node.id) = [node] := by
    have front := List.filter_eq_nil_iff.mpr fun other ahead =>
      others other (List.mem_append_left after ahead)
    have back := List.filter_eq_nil_iff.mpr fun other behind =>
      others other (List.mem_append_right before behind)
    rw [List.filter_append, List.filter_cons, if_pos (beq_self_eq_true node.id), front, back]
    rfl
  have declared : Statement.declares (knownAs node.id) ∘ knownNode =
      fun other => other.id == node.id := funext (declares_knownNode node.id)
  rw [List.filter_append, noWire, List.append_nil, List.filter_map, declared, single,
    List.map_singleton]

theorem pruned_eq_run (name : String) (circuit : Circuit) :
    (circuit.pruned name).1 = Graph.run name
      (circuit.nodes.entries.map (fun entry => .declare entry.1 entry.2) ++
        circuit.wires.map .connect ++ [.prune]) := by
  rw [Circuit.pruned, Circuit.graph_eq, Graph.run, List.foldl_append, List.foldl_append,
    List.foldl_map, List.foldl_map]
  rfl

/-- Graphviz reads a quoted name as one token, whatever follows, and knows names that differ by names
that differ. So of a graph it reads each node under a name of its own, and at each end of a wire the
name of the node that the wire ends at. -/
theorem names_kept_apart :
    (∀ name rest, firstItem? lexNames .between ((quote name).toList ++ rest) =
      some (.quoted (knownAs name).toList, rest)) ∧
    (∀ name other, knownAs name = knownAs other ↔ name = other) ∧
    (∀ style name operations,
      let graph := Graph.run name operations
      let statements := graph.nodes.map knownNode ++ graph.wires.map (knownWire style)
      readNames? (graph.toDot style) = some ⟨knownAs graph.name, statements⟩ ∧
        (graph.nodes.map fun node => knownAs node.id).Nodup ∧
        ∀ wire ∈ graph.wires, ∀ id ∈ [wire.source, wire.sink],
          ∃ node ∈ graph.nodes, node.id = id ∧
            statements.filter (Statement.declares (knownAs id)) = [knownNode node]) ∧
    ∀ name (circuit : Circuit), ∃ operations,
      (circuit.pruned name).1 = Graph.run name operations := by
  refine ⟨firstItem_quote, fun _ _ => knownAs_inj, ?_, ?_⟩
  · intro style name operations graph statements
    have sound : graph.Sound := (Graph.represents_run name operations).sound
    have distinct := Graph.nodup_ids sound
    refine ⟨?_, ?_, ?_⟩
    · rw [Graph.toDot, readNames_write, known_statements]
    · have names := distinct.map fun _ _ => knownAs_inj.mp
      rwa [List.map_map] at names
    · intro wire inside id ending
      obtain ⟨source, sink⟩ := Graph.ends_of_wire sound inside
      have present : graph.contains id = true := by
        rcases List.mem_pair.mp ending with rfl | rfl
        · exact source
        · exact sink
      obtain ⟨node, listed, rfl⟩ := (Graph.contains_iff sound).mp present
      exact ⟨node, listed, rfl, filter_declares distinct listed graph.wires⟩
  · intro name circuit
    exact ⟨_, pruned_eq_run name circuit⟩

/-- A wire between two nodes that are named by a line break and by what is written for one. -/
theorem lineBreak_names_kept_apart :
    let graph := Graph.run "names" [.connect ⟨"\\n", "\n", "pin"⟩]
    let statements := graph.nodes.map knownNode ++ graph.wires.map (knownWire ⟨true⟩)
    (⟨"\\n", "\n", "pin"⟩ ∈ graph.wires ∧ "\n" ∈ ["\\n", "\n"]) ∧
      ∃ node ∈ graph.nodes, node.id = "\n" ∧
        statements.filter (Statement.declares (knownAs "\n")) = [knownNode node] := by
  intro graph statements
  have inside : (⟨"\\n", "\n", "pin"⟩ : Wire) ∈ graph.wires := by decide +kernel
  have ending : "\n" ∈ ["\\n", "\n"] := by decide
  obtain ⟨-, -, read, -⟩ := names_kept_apart
  obtain ⟨-, -, ends⟩ := read ⟨true⟩ "names" [.connect ⟨"\\n", "\n", "pin"⟩]
  exact ⟨⟨inside, ending⟩, ends _ inside _ ending⟩

end Endpoints

end CircuitDiagram.Dot
