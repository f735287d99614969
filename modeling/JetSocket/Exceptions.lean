import Mathlib.Data.Nat.Basic

/- The exceptions that reach the transport and the manager: the ones of
   `exceptions.py`, and Python's own where they can leave a call. `timeout`
   fields (seconds) are not kept. -/
namespace JetSocket

inductive Exc where
  | connectionError (msg : String)
  | handshakeError (msg : String) (statusCode : Option Int)
  | timeoutError (msg : String) (operation : String)
  | invalidStateError (msg : String) (currentState : String) (requiredStates : List String)
  | osError (msg : String)
  | valueError (msg : String)
  | typeError (msg : String)
  | overflowError (msg : String)
  | attributeError (msg : String)
  | runtimeError (msg : String)
  | protocolError (msg : String)
  | zlibError
  deriving DecidableEq, Repr

end JetSocket
