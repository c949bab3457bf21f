/-
**Dialing an address.**

A URL of the network of machines holds an address, or a name and a port.  Where nobody listens,
dialing fails, and the failure says how far it got.

Main definitions:

* `tcpAddress` — the address in a URL;
* `DialFault`, `dialFault` — why nobody is reached at an address;
* `dialError` — what dialing a URL comes to where nobody listens.
-/

import HubReplication.Error
import HubReplication.Socket.Address

set_option relaxedAutoImplicit false
set_option autoImplicit false

namespace HubReplication

/-- The address in a URL. -/
def tcpAddress (url : String) : Outcome String :=
  let refused : Outcome String :=
    .error (.invalidConfiguration ("'" ++ url ++ "' is not a tcp:// url"))
  if "tcp://".toList.isPrefixOf url.toList then
    let address := Text.trimSlashes (String.ofList (url.toList.drop 6))
    if address.isEmpty then refused else .ok address
  else refused

/-- Why nobody is reached at an address. -/
inductive DialFault where
  /-- There is neither an address nor a name with a port. -/
  | malformed
  | badPort
  /-- The name holds the character that ends a name. -/
  | tornName
  /-- Nobody has the name. -/
  | unknownName
  /-- Nobody is there to be asked for the name. -/
  | unresolved
  /-- No way leads to the address. -/
  | unreachable
  /-- Nobody listens at the address. -/
  | refused
deriving DecidableEq, Repr

/-- What a failure to reach anybody says. -/
def DialFault.message : DialFault → String
  | .malformed => "invalid socket address"
  | .badPort => "invalid port value"
  | .tornName => "file name contained an unexpected NUL byte"
  | .unknownName => "failed to lookup address information: Name or service not known"
  | .unresolved => "failed to lookup address information: Temporary failure in name resolution"
  | .unreachable => "Network is unreachable (os error 101)"
  | .refused => "Connection refused (os error 111)"

/-- Why nobody is reached at an address where nobody listens. -/
def dialFault (address : String) : DialFault :=
  match SocketAddress.parse? address with
  | some a => if a.isLocal then .refused else .unreachable
  | none =>
    match SocketAddress.named? address with
    | .error .noPort => .malformed
    | .error .badPort => .badPort
    | .ok (name, _) =>
      if name.contains '\x00' then .tornName
      else if name.isEmpty then .unknownName
      else if SocketAddress.isOwnName name then .refused
      else .unresolved

/-- What dialing a URL comes to where nobody listens. -/
def dialError (url : String) : ReplicationError :=
  match tcpAddress url with
  | .error e => e
  | .ok address =>
    .transient ("connect to " ++ url ++ " failed: " ++ (dialFault address).message)

end HubReplication
