import CircuitDiagram.Json.Fault
import CircuitDiagram.SystemError

/-! What ends a run: a malformed document, or an input, a program or an output that failed. -/

namespace CircuitDiagram

inductive Failure where
  | malformedInput (complaint : Json.Complaint)
  | unreadableInput (path : String) (error : SystemError)
  | programNotStarted (program : String) (error : SystemError)
  | renderingFailed (circuit status said : String)
  | unwritableOutput (path : String) (error : SystemError)

namespace Failure

/-- What underlies the failure, if that has a text of its own. -/
def cause? : Failure → Option String
  | malformedInput complaint => some complaint.message
  | unreadableInput _ error => some error.message
  | programNotStarted _ error => some error.message
  | renderingFailed _ _ _ => none
  | unwritableOutput _ error => some error.message

def isMalformedInput : Failure → Bool
  | malformedInput _ => true
  | _ => false

def message : Failure → String
  | malformedInput complaint => "malformed input: " ++ complaint.message
  | unreadableInput path error =>
      "failed to read input '" ++ path ++ "': " ++ error.message
  | programNotStarted program error =>
      "graphviz program '" ++ program ++ "' could not be started: " ++ error.message
  | renderingFailed circuit status said =>
      "rendering circuit '" ++ circuit ++ "' failed (" ++ status ++ "): " ++ said
  | unwritableOutput path error =>
      "failed to write '" ++ path ++ "': " ++ error.message

end Failure

end CircuitDiagram
