/-
**The command line.**

A command is named first and takes options, each with a value that follows it or is attached after
an equals sign.  A value is looked at when the next option or the end comes; a word that nothing
takes is refused at once.

Main definitions:

* `CommandLine` — what is asked for;
* `UsageProblem` — why nothing is: help was asked for, or the words do not fit;
* `CommandLine.parse` — from words to commands.
-/

import HubReplication.Text.Split

set_option relaxedAutoImplicit false
set_option autoImplicit false

namespace HubReplication

/-- What is asked for. -/
inductive CommandLine where
  /-- Start a node. -/
  | serve (config : String)
  /-- Check a configuration and show it with its defaults. -/
  | checkConfig (config : String)
  /-- Make a certificate for a sink. -/
  | generateCertificate (subject : String) (days : Nat)
deriving DecidableEq

/-- Why words ask for nothing that can be done. -/
inductive UsageProblem where
  | displayHelp
  | displayVersion
  | missingCommand
  | unknownCommand
  | unknownArgument
  | missingArgument
  | missingValue
  | wrongValue
  | repeatedArgument
  | unneededValue
deriving DecidableEq, Repr

/-- The name of a problem. -/
def UsageProblem.name : UsageProblem → String
  | .displayHelp => "DisplayHelp"
  | .displayVersion => "DisplayVersion"
  | .missingCommand => "DisplayHelpOnMissingArgumentOrSubcommand"
  | .unknownCommand => "InvalidSubcommand"
  | .unknownArgument => "UnknownArgument"
  | .missingArgument => "MissingRequiredArgument"
  | .missingValue => "InvalidValue"
  | .wrongValue => "ValueValidation"
  | .repeatedArgument => "ArgumentConflict"
  | .unneededValue => "TooManyValues"

namespace CommandLine

/-! ### Options -/

/-- What values an option takes. -/
inductive ValueKind where
  /-- A path, which is not empty. -/
  | path
  | text
  /-- A number of 32 bits. -/
  | count
deriving DecidableEq

/-- An option: its name and its values. -/
structure OptionSpec where
  name : String
  kind : ValueKind

/-- The options read so far, and the one that waits, with its value if that is there. -/
structure Reading where
  values : List (String × String)
  pending : Option (OptionSpec × Option String)

/-- A number of 32 bits; one sign may stand before it. -/
def count? (s : String) : Option Nat :=
  match s.toList with
  | '-' :: '+' :: _ => none
  | '-' :: digits => if Text.parseNat? 1 digits = some 0 then some 0 else none
  | digits => Text.parseNat? UInt32.size digits

/-- What is wrong with a value. -/
def valueProblem? (kind : ValueKind) (value : String) : Option UsageProblem :=
  match kind with
  | .path => if value.isEmpty then some .missingValue else none
  | .text => none
  | .count => if (count? value).isNone then some .wrongValue else none

/-- Take the value of an option. -/
def take (r : Reading) (o : OptionSpec) (value : Option String) : Except UsageProblem Reading :=
  match value with
  | none => .error .missingValue
  | some v =>
    if r.values.any (·.1 == o.name) then .error .repeatedArgument
    else
      match valueProblem? o.kind v with
      | some problem => .error problem
      | none => .ok { r with values := (o.name, v) :: r.values }

/-- Take the value of the option that waits. -/
def settle (r : Reading) : Except UsageProblem Reading :=
  match r.pending with
  | none => .ok r
  | some (o, value) => take { r with pending := none } o value

/-- The name and the attached value of a long option. -/
def splitLong (cs : List Char) : String × Option String :=
  match cs.dropWhile (· ≠ '=') with
  | '=' :: value => (String.ofList (cs.takeWhile (· ≠ '=')), some (String.ofList value))
  | _ => (String.ofList cs, none)

/-- Read a long option. -/
def readLong (specs : List OptionSpec) (r : Reading) (cs : List Char) :
    Except UsageProblem Reading :=
  match splitLong cs with
  | (name, attached) =>
    if name = "help" then
      if attached.isSome then .error .unneededValue
      else (settle r).bind fun _ => .error .displayHelp
    else
      match specs.find? (·.name == name) with
      | none => .error .unknownArgument
      | some o =>
        (settle r).bind fun r =>
          match attached with
          | some v => take r o (some v)
          | none => .ok { r with pending := some (o, none) }

/-- Read the words after a command. -/
def readOptions (specs : List OptionSpec) : List String → Reading → Except UsageProblem Reading
  | [], r => settle r
  | word :: rest, r =>
    match word.toList with
    | ['-', '-'] => if rest.isEmpty then settle r else .error .unknownArgument
    | '-' :: '-' :: long =>
      match readLong specs r long with
      | .ok r => readOptions specs rest r
      | .error problem => .error problem
    | '-' :: 'h' :: _ => (settle r).bind fun _ => .error .displayHelp
    | '-' :: _ :: _ => .error .unknownArgument
    | _ =>
      match r.pending with
      | some (o, none) => readOptions specs rest { r with pending := some (o, some word) }
      | _ => .error .unknownArgument

/-- The values of the options after a command. -/
def options (specs : List OptionSpec) (words : List String) :
    Except UsageProblem (List (String × String)) :=
  (readOptions specs words ⟨[], none⟩).map (·.values)

/-! ### Commands -/

/-- The option that names a configuration. -/
def configOption : OptionSpec := ⟨"config", .path⟩

/-- Where a configuration is when nobody says. -/
def defaultConfig : String := "./aerohub.json"

/-- Read a command that takes a configuration. -/
def withConfig (make : String → CommandLine) (words : List String) :
    Except UsageProblem CommandLine :=
  (options [configOption] words).map fun values =>
    make ((values.lookup "config").getD defaultConfig)

/-- Read the command that makes a certificate. -/
def certificateCommand (words : List String) : Except UsageProblem CommandLine :=
  match options [⟨"subject", .text⟩, ⟨"valid-days", .count⟩] words with
  | .error problem => .error problem
  | .ok values =>
    match values.lookup "subject" with
    | none => .error .missingArgument
    | some subject =>
      .ok (.generateCertificate subject (((values.lookup "valid-days").bind count?).getD 365))

/-- The names of the commands. -/
def names : List String := ["serve", "check-config", "generate-certificate", "help"]

/-- Read a command. -/
def ofName (name : String) (words : List String) : Except UsageProblem CommandLine :=
  match name with
  | "serve" => withConfig .serve words
  | "check-config" => withConfig .checkConfig words
  | "generate-certificate" => certificateCommand words
  | "help" =>
    match words with
    | [] => .error .displayHelp
    | [command] => .error (if names.contains command then .displayHelp else .unknownCommand)
    | _ => .error .unknownCommand
  | _ => .error .unknownCommand

/-- Read an option before the command; it shows help or the version. -/
def globalOption (cs : List Char) : UsageProblem :=
  match cs with
  | '-' :: long =>
    match splitLong long with
    | (name, attached) =>
      if name = "help" then (if attached.isSome then .unneededValue else .displayHelp)
      else if name = "version" then (if attached.isSome then .unneededValue else .displayVersion)
      else .unknownArgument
  | 'h' :: _ => .displayHelp
  | 'V' :: _ => .displayVersion
  | _ => .unknownArgument

/-- From words to a command. -/
def parse : List String → Except UsageProblem CommandLine
  | [] => .error .missingCommand
  | word :: rest =>
    if names.contains word then ofName word rest
    else
      match word.toList with
      | ['-', '-'] =>
        match rest with
        | [] => .error .missingCommand
        | next :: _ =>
          .error (if names.contains next then .unknownArgument else .unknownCommand)
      | '-' :: c :: more => .error (globalOption (c :: more))
      | _ => .error .unknownCommand

end CommandLine

end HubReplication
