import LintDaemon.CommandLine.Command

/-!
# Arguments of the daemon program

The daemon can be started as a program of its own. It takes a port and nothing else.

* `DaemonArguments.parse`: the port that arguments give.

Options may be abbreviated as long as only one begins that way. An argument that looks like a
negative number, or holds a space, is no option unless it begins like one.

Scope: of arguments that cannot be used only that is told what the program ends with, and not the
text about them.
-/

namespace LintDaemon.DaemonArguments

open LintDaemon.Text

/-- What an argument is. -/
inductive Item
  /-- No option. -/
  | operand
  /-- An option that is not known. -/
  | unknown
  /-- An option that more than one begins like. -/
  | ambiguous
  /-- The option that asks for help; whether it is used as it should be. -/
  | help (wellFormed : Bool)
  /-- The option for the port, with the value if it is attached. -/
  | port (attached : Option (List Char))
  deriving DecidableEq, Repr

/-- A text without a line feed at its end. -/
def withoutLastLineFeed (text : List Char) : List Char :=
  match text.getLast? with
  | some '\n' => text.dropLast
  | _ => text

/-- Whether an argument looks like a negative number: digits behind a dash, which may have a point
among them that digits follow. A line feed at the end does not matter. -/
def isNegativeNumber (arg : List Char) : Bool :=
  match withoutLastLineFeed arg with
  | '-' :: digits =>
    match cut '.' digits with
    | (whole, none) => !whole.isEmpty && whole.all isDecimalDigit
    | (whole, some part) =>
      whole.all isDecimalDigit && !part.isEmpty && part.all isDecimalDigit
  | _ => false

/-- An argument that begins like no option. -/
def otherItem (arg : List Char) : Item :=
  if isNegativeNumber arg || arg.contains ' ' then .operand else .unknown

/-- An argument that begins with two dashes: an option or the beginning of one, and what follows
an equals sign. -/
def longItem (arg : List Char) : Item :=
  let (name, attached) := cut '=' arg
  match name.isPrefixOf "--help".toList, name.isPrefixOf "--port".toList with
  | true, true => .ambiguous
  | true, false => .help attached.isNone
  | false, true => .port attached
  | false, false => otherItem arg

/-- What an argument is. The option for help may be said several times in one argument. -/
def Item.ofChars (arg : List Char) : Item :=
  match arg with
  | '-' :: '-' :: _ => longItem arg
  | '-' :: 'h' :: rest => .help (rest.all (· == 'h'))
  | '-' :: _ :: _ => otherItem arg
  | _ => .operand

/-- What the arguments are in front of two dashes, and whether there are such. -/
def itemsOf : List String → List (Item × String) × Bool
  | [] => ([], false)
  | arg :: rest =>
    if arg = "--" then ([], true)
    else
      let (items, ended) := itemsOf rest
      ((Item.ofChars arg.toList, arg) :: items, ended)

/-- The port that items give, behind those that have been read: the last port so far, and whether
there was anything that is not taken. Help counts as soon as it is met. -/
def portOf (port : Option Int) (surplus : Bool) : List (Item × String) → Parsed (Option Int)
  | [] => if surplus then .misuse else .command port
  | (.help wellFormed, _) :: _ => if wellFormed then .help else .misuse
  | (.port (some text), _) :: rest =>
    match integerArgument? (String.ofList text) with
    | some n => portOf (some n) surplus rest
    | none => .misuse
  | (.port none, _) :: (.operand, text) :: rest =>
    match integerArgument? text with
    | some n => portOf (some n) surplus rest
    | none => .misuse
  | (.port none, _) :: _ => .misuse
  | (.operand, _) :: rest | (.unknown, _) :: rest | (.ambiguous, _) :: rest =>
    portOf port true rest

/-- The port that arguments give. -/
def parse (args : List String) : Parsed (Option Int) :=
  let (items, ended) := itemsOf args
  if items.any (·.1 == .ambiguous) then .misuse else portOf none ended items

end LintDaemon.DaemonArguments
