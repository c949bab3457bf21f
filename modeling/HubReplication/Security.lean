/-
**Security of a server.**

A secured server has a certificate of its own and knows its peers by theirs; an unsecured one knows
nobody.  Filtering hubs and data pushed by sinks need to know the peer.

Main definitions:

* `SecurityMode`, `SecurityConfig` — security as configured;
* `ServerSecurity` — security as it runs;
* `ServerSecurity.load` — from the one to the other, given the certificate file.
-/

import HubReplication.Certificate.Basic

set_option relaxedAutoImplicit false
set_option autoImplicit false

namespace HubReplication

/-- Whether peers are known. -/
inductive SecurityMode where
  | unsecured
  | secured
deriving DecidableEq, Repr

/-- The name of a mode. -/
def SecurityMode.name : SecurityMode → String
  | .unsecured => "unsecured"
  | .secured => "secured"

/-- The mode of a value. -/
def SecurityMode.ofJson? (j : Json) : Option SecurityMode :=
  match j.variant? .direct with
  | some "unsecured" => some .unsecured
  | some "secured" => some .secured
  | _ => none

/-- The security section of a configuration. -/
structure SecurityConfig where
  mode : SecurityMode
  /-- The file with the certificate bundle of the server. -/
  certificatePath : Option String
deriving DecidableEq

namespace SecurityConfig

/-- No security. -/
def default : SecurityConfig := ⟨.unsecured, none⟩

/-- A certificate file is named exactly in secured mode. -/
def validate (c : SecurityConfig) : Outcome Unit :=
  match c.mode, c.certificatePath with
  | .secured, none =>
    .error (.invalidConfiguration "secured mode requires security.certificate_path")
  | .unsecured, some _ =>
    .error (.invalidConfiguration "security.certificate_path is only valid in secured mode")
  | _, _ => .ok ()

/-- The section as a value. -/
def toJson (c : SecurityConfig) : Json :=
  .object [("mode", .string c.mode.name), ("certificate_path", Json.optString c.certificatePath)]

/-- The section of a value. -/
def ofJson? (j : Json) : Option SecurityConfig := do
  match ← j.record? ["mode", "certificate_path"] with
  | [mode, path] =>
    return {
      mode := ← Json.defaulted SecurityMode.ofJson? .unsecured mode
      certificatePath := ← Json.nullable Json.asText path }
  | _ => none

instance : Json.Readable SecurityConfig := ⟨ofJson?⟩

end SecurityConfig

/-- Security as it runs. -/
inductive ServerSecurity where
  | unsecured
  /-- A server that presents a certificate to its peers. -/
  | secured (node : CertificateBundle)
deriving DecidableEq

namespace ServerSecurity

/-- Whether peers are known by their certificates. -/
def isSecured : ServerSecurity → Bool
  | .unsecured => false
  | .secured _ => true

/-- The certificate of the server. -/
def node? : ServerSecurity → Option CertificateBundle
  | .unsecured => none
  | .secured node => some node

/-- Security from its configuration, given what reading the certificate file gives. -/
def load (config : SecurityConfig) (fileAt : String → Option String) : Outcome ServerSecurity :=
  match config.validate with
  | .error e => .error e
  | .ok () =>
    match config.certificatePath with
    | none => .ok .unsecured
    | some path =>
      match fileAt path with
      | none =>
        .error (.invalidConfiguration ("cannot read node certificate " ++ path ++ ": no such file"))
      | some encoded =>
        match CertificateBundle.parse encoded with
        | .error e => .error e
        | .ok bundle => .ok (.secured bundle)

end ServerSecurity

end HubReplication
