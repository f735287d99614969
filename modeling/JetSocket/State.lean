import Mathlib.Data.List.Basic

/- The connection states and the table of declared transitions (`state.py`). -/
namespace JetSocket

inductive ConnectionState where
  | idle
  | connecting
  | connected
  | disconnecting
  | disconnected
  | reconnecting
  | backingOff
  | failed
  | closed
  deriving DecidableEq, Repr

namespace ConnectionState

/-- `value`. -/
def value : ConnectionState → String
  | .idle => "idle"
  | .connecting => "connecting"
  | .connected => "connected"
  | .disconnecting => "disconnecting"
  | .disconnected => "disconnected"
  | .reconnecting => "reconnecting"
  | .backingOff => "backing_off"
  | .failed => "failed"
  | .closed => "closed"

/-- `is_terminal`. -/
def isTerminal : ConnectionState → Bool
  | .failed | .closed => true
  | _ => false

/-- `can_send`. -/
def canSend : ConnectionState → Bool
  | .connected => true
  | _ => false

end ConnectionState

/-- `VALID_TRANSITIONS`. -/
def validTransitions : ConnectionState → List ConnectionState
  | .idle => [.connecting]
  | .connecting => [.connected, .backingOff, .failed]
  | .connected => [.disconnecting, .disconnected, .reconnecting]
  | .disconnecting => [.disconnected, .closed]
  | .disconnected => [.reconnecting, .closed]
  | .reconnecting => [.backingOff, .connecting, .failed]
  | .backingOff => [.connecting, .failed, .closed]
  | .failed => []
  | .closed => []

/-- `is_valid_transition`. -/
def isValidTransition (fromState toState : ConnectionState) : Bool :=
  (validTransitions fromState).contains toState

/-- A terminal state has no way out. -/
theorem isValidTransition_terminal {a b : ConnectionState} (h : a.isTerminal = true) :
    isValidTransition a b = false := by
  cases a <;> first | rfl | cases h

end JetSocket
