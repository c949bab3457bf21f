/-
**Running commands.**

A command prints a text, fails, or starts a node.  Files, the time and random material come from
outside.

Main definitions:

* `Surroundings` — what a command is given;
* `CommandResult`, `CommandLine.run` — what a command does.
-/

import HubReplication.Admin.Error
import HubReplication.Cli.Arguments
import HubReplication.Config.Bootstrap
import HubReplication.Json.Printer
import HubReplication.Socket.Address

set_option relaxedAutoImplicit false
set_option autoImplicit false

namespace HubReplication

/-- What a command is given. -/
structure Surroundings where
  fileAt : String → Option String
  now : Instant
  entropy : GeneratedCertificate.Entropy

/-- What a command does. -/
inductive CommandResult where
  /-- It prints a line. -/
  | printed (line : String)
  /-- It makes a certificate and prints it. -/
  | issued (generated : GeneratedCertificate)
  /-- It fails. -/
  | failed (error : CommandError)
  /-- A date is beyond the calendar. -/
  | beyondCalendar
  /-- The log filter of the configuration cannot be cut into parts. -/
  | tornFilter
  /-- It starts a node and serves until it is stopped. -/
  | serving (config : NodeConfig)

namespace CommandLine

/-- The path of the configuration that a command reads. -/
def configPath? : CommandLine → Option String
  | .serve path | .checkConfig path => some path
  | .generateCertificate _ _ => none

/-- The configuration in a file, or what a command comes to without it. -/
def loadConfig (s : Surroundings) (path : String) : Except CommandResult NodeConfig :=
  match NodeConfig.load path (s.fileAt path) with
  | some outcome => outcome.mapError fun e => .failed ⟨.config, e.message⟩
  | none => .error .tornFilter

/-- Show a configuration with its defaults. -/
def runCheck (s : Surroundings) (path : String) : CommandResult :=
  match loadConfig s path with
  | .ok config => .printed config.toJson.pretty
  | .error result => result

/-- Make a certificate. -/
def runGenerate (s : Surroundings) (subject : String) (days : Nat) : CommandResult :=
  if days = 0 then .failed ⟨.certificate, "valid-days must be positive"⟩
  else
    match GeneratedCertificate.generate subject ⟨days * 86400 * 1000000000⟩ s.now s.entropy with
    | .ok generated => .issued generated
    | .error (.refused e) => .failed ⟨.certificate, e.message⟩
    | .error .beyondCalendar => .beyondCalendar

/-- Start a node: first its configuration, then the listener of the nodes, then that of the
administrators. -/
def runServe (s : Surroundings) (path : String) : CommandResult :=
  match loadConfig s path with
  | .error result => result
  | .ok config =>
    match config.bootstrap s.fileAt with
    | .error e => .failed (.ofError e)
    | .ok _ =>
      if SocketAddress.canListen config.listenAddress then
        match SocketAddress.parse? config.http.address with
        | none =>
          .failed ⟨.bootFailed, "HTTP server failed: invalid socket address syntax"⟩
        | some address =>
          if address.isLocal then .serving config
          else
            .failed ⟨.bootFailed,
              "HTTP server failed: Cannot assign requested address (os error 99)"⟩
      else
        .failed (.ofError (.invalidConfiguration
          ("cannot bind " ++ config.listenAddress ++ ": no such address")))

/-- Run a command. -/
def run (c : CommandLine) (s : Surroundings) : CommandResult :=
  match c with
  | .serve path => runServe s path
  | .checkConfig path => runCheck s path
  | .generateCertificate subject days => runGenerate s subject days

end CommandLine

end HubReplication
