import CircuitDiagram.Document
import CircuitDiagram.Proofs.Json.Grammar
import CircuitDiagram.Proofs.Table

/-!
What a JSON value stands for as a document, told from the value alone. The members of an object
are looked at all together here, in no order but their own, and the names of members are what
their marks say.
-/

namespace CircuitDiagram

open Json

variable {α β : Type}

/-- The members with their names decoded, if all of them can be. -/
def named? (members : List (List Mark × Tree)) : Option (List (String × Tree)) :=
  members.mapM fun member => (text? member.1).map (·, member.2)

def sole? (name : String) (members : List (String × Tree)) : Option Tree :=
  match members.filter fun member => member.1 == name with
  | [member] => some member.2
  | _ => none

/-- Two fields: an object that has each just once, whatever else it has, or a list of the two. -/
def shapeRecord (first second : String) (shape : Tree → Option α) (otherShape : Tree → Option β) :
    Tree → Option (α × β)
  | .object members => do
      let fields ← named? members
      let left ← (sole? first fields).bind shape
      let right ← (sole? second fields).bind otherShape
      return (left, right)
  | tree => shapePair shape otherShape tree

def shapeTable (shape : Tree → Option α) : Tree → Option (Table α)
  | .object members => do
      let fields ← named? members
      let entries ← fields.mapM fun field => (shape field.2).map (field.1, ·)
      return .ofEntries entries
  | _ => none

def boundary? (name : String) : Option Kind :=
  if name = "Input" then some (.boundary .input)
  else if name = "Output" then some (.boundary .output)
  else none

def shapeKind : Tree → Option Kind
  | .text marks => (text? marks).bind boundary?
  | .object [(tag, .null)] => (text? tag).bind boundary?
  | .object [(tag, .text marks)] =>
      if text? tag = some "Internal" then (text? marks).map .gate else none
  | _ => none

def shapeNode : Tree → Option Kind
  | .object members => do
      let fields ← named? members
      (sole? "type_" fields).bind shapeKind
  | tree => shapeSingle shapeKind tree

def shapeSink : Tree → Option (String × String) :=
  shapePair shapeText shapeText

def shapeWire (tree : Tree) : Option Wire :=
  (shapeRecord "source" "sink" shapeText shapeSink tree).map fun parts =>
    ⟨parts.1, parts.2.1, parts.2.2⟩

def shapeGroup : Tree → Option (List Wire) :=
  shapeList shapeWire

def shapeCircuit (tree : Tree) : Option Circuit :=
  (shapeRecord "nodes" "edges" (shapeTable shapeNode) (shapeTable shapeGroup) tree).map
    fun parts => ⟨parts.1, parts.2⟩

def shapeDocument (tree : Tree) : Option Document :=
  (shapeTable shapeCircuit tree).map .mk

end CircuitDiagram
