/-! What a run has to tell while it goes on: steps that are done, and things to look at. -/

namespace CircuitDiagram

inductive Level where
  | info
  | warning
  deriving DecidableEq, Repr

inductive Event where
  | undeclaredNode (circuit node : String)
  | stemRenamed (circuit stem : String)
  | inputLeftUnread (circuit error : String)
  | circuitRendered (circuit : String) (nodes wires pruned : Nat) (path : String)
  | runComplete (circuits : Nat)
  deriving DecidableEq, Repr

namespace Event

def level : Event → Level
  | undeclaredNode _ _ => .warning
  | stemRenamed _ _ => .warning
  | inputLeftUnread _ _ => .warning
  | circuitRendered _ _ _ _ _ => .info
  | runComplete _ => .info

def message : Event → String
  | undeclaredNode _ _ => "wire references undeclared node"
  | stemRenamed _ _ => "artifact name already taken; renamed"
  | inputLeftUnread _ _ => "layout program did not read all of its input"
  | circuitRendered _ _ _ _ _ => "rendered circuit"
  | runComplete _ => "run complete"

end Event

end CircuitDiagram
