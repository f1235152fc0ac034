import LintDaemon.Diagnostic
import LintDaemon.Text.Blank
import LintDaemon.Text.Line
import LintDaemon.Text.Word

/-!
# Lines of a compiler report

What a single line of the compiler's output is.

* `Report.Opener`: a line that begins a diagnostic: one with a place in a file, a note, or one
  without a place.
* `Report.Line.ofChars`: the kind of a line.

The forms are those that `parse_javac_output` of section 4.4 of the specification tells apart. Where
a line fits several of them, a place in a file goes before a note, and a note before the rest.
-/

namespace LintDaemon.Report

open LintDaemon.Text

/-- A line that begins a diagnostic. -/
inductive Opener
  /-- A file and a line number, given by its digits, then a severity and a message. -/
  | located (digits : List Char) (severity : Severity) (message : List Char)
  /-- A note and its message. -/
  | note (message : List Char)
  /-- A severity and a message. -/
  | general (severity : Severity) (message : List Char)
  deriving DecidableEq, Repr

/-- What a line of a report is. -/
inductive Line
  /-- All white space. -/
  | blank
  /-- The beginning of a diagnostic. -/
  | opener (o : Opener)
  /-- A count of errors or warnings. -/
  | summary
  /-- Anything else. -/
  | other
  deriving DecidableEq, Repr

/-- A severity label, a colon, a space, and the message behind them. -/
def labelled? (s : List Char) : Option (Severity × List Char) :=
  match dropPrefix? "error: ".toList s with
  | some message => some (.error, message)
  | none => (dropPrefix? "warning: ".toList s).map (Severity.warning, ·)

/-- The decimal digits of any script at the start of a text, and what follows them. -/
def spanDecimal (s : List Char) : List Char × List Char :=
  (s.takeWhile isDecimalDigit, s.dropWhile isDecimalDigit)

/-- The end of a file name and all that follows it in a line with a place. -/
def locatedTail? (s : List Char) : Option Opener :=
  match dropPrefix? ".java:".toList s with
  | none => none
  | some s =>
    match spanDecimal s with
    | ([], _) => none
    | (digits, s) =>
      match (dropPrefix? ": ".toList s).bind labelled? with
      | some (severity, message) => some (.located digits severity message)
      | none => none

/-- A line with a place: the shortest file name, of at least one character before its suffix,
behind which a line number, a severity and a message follow. -/
def located? : List Char → Option Opener
  | [] => none
  | _ :: rest =>
    match locatedTail? rest with
    | some opener => some opener
    | none => located? rest

/-- The opener that a line is. -/
def opener? (s : List Char) : Option Opener :=
  match located? s with
  | some opener => some opener
  | none =>
    match dropPrefix? "Note: ".toList s with
    | some message => some (.note message)
    | none => (labelled? s).map fun (severity, message) => .general severity message

/-- Digits, a space, and the word for errors or warnings. -/
def isSummary (s : List Char) : Bool :=
  match spanDecimal s with
  | ([], _) => false
  | (_, rest) =>
    rest == " error".toList || rest == " errors".toList || rest == " warning".toList ||
      rest == " warnings".toList

/-- The kind of a line. -/
def Line.ofChars (s : List Char) : Line :=
  if allBlank s then .blank
  else
    match opener? s with
    | some found => .opener found
    | none => if isSummary s then .summary else .other

/-- The column that a caret line points at: its only character that is not white space is a
caret. -/
def caretColumn? (s : List Char) : Option Nat :=
  match s.dropWhile isBlank with
  | '^' :: rest => if allBlank rest then some ((s.takeWhile isBlank).length + 1) else none
  | _ => none

end LintDaemon.Report
