/-
**The life of a connection.**

A connection moves through states, and only some moves are allowed; a move that is not is a failure
and never passed over.  A dialer goes from the handshake straight to streaming; only the accepting
side authorizes in between.

Main definitions:

* `ConnectionStatus` — the states;
* `ConnectionStep`, `ConnectionStatus.take` — the moves.

Main results:

* `ConnectionStatus.take_disposed` — a disposed connection moves no more.
-/

import HubReplication.Error

set_option relaxedAutoImplicit false
set_option autoImplicit false

namespace HubReplication

/-- The state of a connection. -/
inductive ConnectionStatus where
  | idle
  | connecting
  | handshaking
  | authorizing
  | streaming
  | backingOff
  | error
  | disposed
deriving DecidableEq, Repr, Inhabited

/-- A move from state to state. -/
inductive ConnectionStep where
  | connect
  | handshake
  | authorize
  | stream
  | backOff
  | fail
  | dispose
deriving DecidableEq, Repr

namespace ConnectionStep

/-- Every move. -/
def all : List ConnectionStep :=
  [.connect, .handshake, .authorize, .stream, .backOff, .fail, .dispose]

/-- The name of a move. -/
def name : ConnectionStep → String
  | .connect => "connect"
  | .handshake => "handshake"
  | .authorize => "authorize"
  | .stream => "stream"
  | .backOff => "back_off"
  | .fail => "fail"
  | .dispose => "dispose"

/-- The move of a name. -/
def ofName? (name : String) : Option ConnectionStep := all.find? (·.name == name)

end ConnectionStep

namespace ConnectionStatus

/-- Every state. -/
def all : List ConnectionStatus :=
  [.idle, .connecting, .handshaking, .authorizing, .streaming, .backingOff, .error, .disposed]

/-- The name of a state. -/
def name : ConnectionStatus → String
  | .idle => "Idle"
  | .connecting => "Connecting"
  | .handshaking => "Handshaking"
  | .authorizing => "Authorizing"
  | .streaming => "Streaming"
  | .backingOff => "BackingOff"
  | .error => "Error"
  | .disposed => "Disposed"

/-- The state of a name. -/
def ofName? (name : String) : Option ConnectionStatus := all.find? (·.name == name)

/-- Whether a connection in this state is over for good. -/
def isTerminal : ConnectionStatus → Bool
  | .disposed => true
  | _ => false

end ConnectionStatus

namespace ConnectionStep

/-- The state that a move leads to. -/
def target : ConnectionStep → ConnectionStatus
  | .connect => .connecting
  | .handshake => .handshaking
  | .authorize => .authorizing
  | .stream => .streaming
  | .backOff => .backingOff
  | .fail => .error
  | .dispose => .disposed

/-- The states that a move is allowed from.  A dialer that is connecting or in a handshake connects
again to go on to the next candidate. -/
def allowedFrom : ConnectionStep → ConnectionStatus → Bool
  | .connect, .idle | .connect, .backingOff | .connect, .error | .connect, .connecting
  | .connect, .handshaking => true
  | .handshake, .connecting | .handshake, .idle => true
  | .authorize, .handshaking => true
  | .stream, .handshaking | .stream, .authorizing => true
  | .backOff, .connecting | .backOff, .handshaking | .backOff, .authorizing
  | .backOff, .streaming => true
  | .fail, s => s != .disposed
  | .dispose, _ => true
  | _, _ => false

end ConnectionStep

namespace ConnectionStatus

/-- The failure of a move that is not allowed. -/
def forbidden (s target : ConnectionStatus) : ReplicationError :=
  .invalidConfiguration ("forbidden connection transition " ++ s.name ++ " -> " ++ target.name)

/-- Make a move. -/
def take (s : ConnectionStatus) (step : ConnectionStep) : Outcome ConnectionStatus :=
  if step.allowedFrom s then .ok step.target else .error (s.forbidden step.target)

theorem take_disposed {step : ConnectionStep} {t : ConnectionStatus}
    (h : ConnectionStatus.disposed.take step = .ok t) : t = .disposed := by
  cases step <;> simp_all [take, ConnectionStep.allowedFrom, ConnectionStep.target]

end ConnectionStatus

end HubReplication
