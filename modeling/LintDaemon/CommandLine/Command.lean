import LintDaemon.Host.Machine
import LintDaemon.Number.Numeral
import LintDaemon.Text.Line

/-!
# Commands

* `Command`: what the program can be told to do.
* `Command.parse`: the command that arguments give.

Options may stand before, between and behind the operands of a command. Two dashes end the
options. An option that takes a value takes the next argument, whatever it is, if no value is
attached to it; of an option given several times the last value counts.

These are the commands of section 6 of the specification. Texts of help and of wrong usage are not
told apart: of such arguments only that is told what the program ends with. The completion of
commands for shells is left out.
-/

namespace LintDaemon

open LintDaemon.Text

/-- What the program can be told to do. -/
inductive Command
  /-- Run the daemon. -/
  | serve (port : Option Int)
  /-- Lint a file as a class and show what the daemon says. -/
  | lint (name file : String) (port : Option Int) (asJson : Bool)
  /-- Change the class path of the daemon. -/
  | setClasspath (classpath : String) (port : Option Int)
  /-- Change the installation of the compiler of the daemon. -/
  | setJdk (home : String) (port : Option Int)
  /-- End the daemon. -/
  | kill (port : Option Int)
  /-- Show the settings. -/
  | settings (action : String)
  deriving DecidableEq, Repr

/-- What arguments come to. -/
inductive Parsed (α : Type)
  /-- Something to do. -/
  | command (c : α)
  /-- Help was asked for. -/
  | help
  /-- There are no arguments, so that help is in place. -/
  | noArguments
  /-- They are not used as they should be. -/
  | misuse
  deriving DecidableEq, Repr

/-- The number that an argument writes. -/
def integerArgument? (s : String) : Option Int :=
  (Numeral.int s.toList).toOption

/-- The port that an argument writes: ASCII digits, with a sign or zeros behind a point if
wanted. -/
def portArgument? (s : String) : Option Int :=
  Numeral.wholeNumber? s.toList

namespace Command

/-- Which options a command takes, besides the one that asks for help. -/
structure Options where
  /-- The port of the daemon. -/
  port : Bool
  /-- Whether JSON is shown. -/
  json : Bool
  deriving DecidableEq, Repr

/-- What an argument in front of the end of the options is. -/
inductive Argument
  /-- No option. -/
  | operand
  /-- The option that asks for help. -/
  | help
  /-- The option that asks for JSON. -/
  | json
  /-- The option for the port, with the value if it is attached. -/
  | port (attached : Option String)
  /-- An option that the command does not take. -/
  | unknown
  deriving DecidableEq, Repr

/-- Whether an argument is an option: it begins with a dash and goes on. -/
def isOption (arg : String) : Bool :=
  match arg.toList with
  | '-' :: _ :: _ => true
  | _ => false

/-- The value attached to an option for the port: behind an equals sign if the option is written
out, at once if it is not; none if nothing is attached. -/
def portValue? (arg : List Char) : Option (Option String) :=
  if arg = "--port".toList ∨ arg = "-p".toList then some none
  else
    ((dropPrefix? "--port=".toList arg).or
      (if arg.take 2 = "-p".toList then some (arg.drop 2) else none)).map fun value =>
        some (String.ofList value)

/-- What an argument is to a command. -/
def Argument.ofString (accepted : Options) (arg : String) : Argument :=
  if !isOption arg then .operand
  else if arg = "--help" then .help
  else if accepted.json ∧ arg = "--json" then .json
  else if accepted.port then
    match portValue? arg.toList with
    | some attached => .port attached
    | none => .unknown
  else .unknown

/-- The options and operands found among arguments. -/
structure Found where
  /-- Whether help is asked for. -/
  help : Bool
  /-- The text of the port. -/
  port : Option String
  /-- Whether JSON is asked for. -/
  json : Bool
  /-- The operands. -/
  operands : List String
  deriving DecidableEq, Repr

/-- Arguments read behind those that have been read; none if an option is unknown or lacks its
value. -/
def scan? (accepted : Options) (found : Found) : List String → Option Found
  | [] => some found
  | arg :: rest =>
    if arg = "--" then some { found with operands := found.operands ++ rest }
    else
      match Argument.ofString accepted arg with
      | .operand => scan? accepted { found with operands := found.operands ++ [arg] } rest
      | .help => scan? accepted { found with help := true } rest
      | .json => scan? accepted { found with json := true } rest
      | .port (some value) => scan? accepted { found with port := some value } rest
      | .port none =>
        match rest with
        | [] => none
        | value :: rest => scan? accepted { found with port := some value } rest
      | .unknown => none

/-- The command that operands give, where options and their port are in order. -/
abbrev Build := Option Int → Bool → List String → Parsed Command

/-- A command that takes options and is built from its operands. Help goes before all else, and a
port that is no number before the operands. -/
def withOptions (accepted : Options) (build : Build) (args : List String) : Parsed Command :=
  match scan? accepted ⟨false, none, false, []⟩ args with
  | none => .misuse
  | some found =>
    if found.help then .help
    else
      match found.port with
      | none => build none found.json found.operands
      | some text =>
        match portArgument? text with
        | some port => build (some port) found.json found.operands
        | none => .misuse

/-- The only operand given to a command. -/
def onOperand (command : String → Option Int → Command) : Build
  | port, _, [operand] => .command (command operand port)
  | _, _, _ => .misuse

/-- The operands of a run of the daemon: at most a port. -/
def serveBuild : Build
  | _, _, [] => .command (.serve none)
  | _, _, [text] =>
    match portArgument? text with
    | some port => .command (.serve (some port))
    | none => .misuse
  | _, _, _ => .misuse

/-- The operands of a lint: a name, and a path at which there is something that is no directory. The
path is taken in its lowest form. -/
def lintBuild (m : Machine) : Build
  | port, asJson, name :: written :: rest =>
    let file := (Path.ofString written).toString
    match m.files.find? m.directory file with
    | some (.file _ _ _) | some (.socket _) =>
      if rest = [] then .command (.lint name file port asJson) else .misuse
    | some .directory | none => .misuse
  | _, _, _ => .misuse

/-- No operands. -/
def killBuild : Build
  | port, _, [] => .command (.kill port)
  | _, _, _ => .misuse

/-- The operands of the settings: at most an action. -/
def settingsBuild : Build
  | _, _, [] => .command (.settings "show")
  | _, _, [action] => .command (.settings action)
  | _, _, _ => .misuse

/-- The names of the commands, the options they take, and what is built from their operands. -/
def table (m : Machine) : List (String × Options × Build) :=
  [("serve", ⟨false, false⟩, serveBuild), ("lint", ⟨true, true⟩, lintBuild m),
   ("set-classpath", ⟨true, false⟩, onOperand .setClasspath),
   ("set-jdk", ⟨true, false⟩, onOperand .setJdk), ("kill", ⟨true, false⟩, killBuild),
   ("settings", ⟨false, false⟩, settingsBuild)]

/-- What stands in front of the name of a command: whether help is asked for, and the arguments
from the name on. None if there is an option that is not known. -/
def skipOptions? : List String → Option (Bool × List String)
  | [] => some (false, [])
  | arg :: rest =>
    if arg = "--" then some (false, rest)
    else if !isOption arg then some (false, arg :: rest)
    else if arg = "--help" then (skipOptions? rest).map fun (_, args) => (true, args)
    else none

/-- The command that arguments give. What stands in the place of a name and is none is read once
more as an option. -/
def parse (m : Machine) (args : List String) : Parsed Command :=
  if args = [] then .noArguments
  else
    match skipOptions? args with
    | none => .misuse
    | some (true, _) => .help
    | some (false, []) => .misuse
    | some (false, name :: rest) =>
      match (table m).lookup name with
      | some (accepted, build) => withOptions accepted build rest
      | none =>
        match skipOptions? (name :: rest) with
        | some (true, _) => .help
        | _ => .misuse

end Command

end LintDaemon
