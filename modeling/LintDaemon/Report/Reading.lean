import LintDaemon.Number.Numeral
import LintDaemon.Report.Line

/-!
# Reading a compiler report

The diagnostics that the compiler printed, read line by line.

* `Report.Pending`: a diagnostic whose lines are still coming.
* `Report.Pending.feed`: what one more line does to it.
* `Report.readLines`, `Report.read`: the diagnostics of a report, in the order of their openers.

A diagnostic with a place goes on with the line of the source, a line with a caret under it, and
details. The line above the caret is the echo of the source and no part of the message.

This is `parse_javac_output` of section 4.4 of the specification. The report is one text: what of it
was written to the standard error and what to the standard output is settled before
(`Javac.reportText`).
-/

namespace LintDaemon.Report

open LintDaemon.Text

/-- A diagnostic whose lines are still coming. -/
structure Pending where
  /-- How severe it is. -/
  severity : Severity
  /-- The line of the source, if it has a place. -/
  line : Option Nat
  /-- The column, once a caret has been seen. -/
  column : Option Nat
  /-- The lines that belong to the message. -/
  message : List (List Char)
  /-- The lines since then of which the last may turn out to be the echo of the source. -/
  context : List (List Char)
  deriving DecidableEq, Repr

/-- A pending diagnostic with one more line. The first caret under a place fixes the column and
takes the line above it out; later lines are details. -/
def Pending.feed (p : Pending) (s : List Char) : Pending :=
  match p.line, p.column, caretColumn? s with
  | some _, none, some column =>
    { p with column := some column, message := p.message ++ p.context.dropLast, context := [] }
  | _, some _, _ => { p with message := p.message ++ [s] }
  | _, none, _ => { p with context := p.context ++ [s] }

/-- The diagnostic that the lines make: they are joined, and white space at the end is dropped. -/
def Pending.build (p : Pending) : Diagnostic where
  message := String.ofList (trimEnd (join ['\n'] (p.message ++ p.context)))
  line := p.line.map Int.ofNat
  column := p.column.map Int.ofNat
  severity := p.severity

/-- A line number has too many digits, this many. -/
structure LineNumberTooLong where
  /-- How many digits it has. -/
  digits : Nat
  deriving DecidableEq, Repr

/-- The pending diagnostic that an opener begins. -/
def Opener.begin : Opener → Except LineNumberTooLong Pending
  | .located digits severity message =>
    if digits.length ≤ Numeral.maxDigits then
      .ok ⟨severity, some (Numeral.value (digits.map Numeral.asciiDigit)), none, [message], []⟩
    else .error ⟨digits.length⟩
  | .note message => .ok ⟨.note, none, none, [message], []⟩
  | .general severity message => .ok ⟨severity, none, none, [message], []⟩

/-- What reading a report gives. -/
structure Outcome where
  /-- The lines that belong to no diagnostic. -/
  ignored : List (List Char)
  /-- The diagnostics. -/
  result : Except LineNumberTooLong (List Diagnostic)

/-- The diagnostic that a new opener or a summary brings to its end, before those that follow. -/
def Outcome.after (pending : Option Pending) (o : Outcome) : Outcome :=
  match pending with
  | none => o
  | some p => { o with result := o.result.map (p.build :: ·) }

/-- The outcome of reading lines, with the diagnostic that is pending before them. -/
def readLines : Option Pending → List (List Char) → Outcome
  | pending, [] => Outcome.after pending ⟨[], .ok []⟩
  | pending, s :: rest =>
    match Line.ofChars s, pending with
    | .blank, pending => readLines (pending.map (·.feed s)) rest
    | .summary, pending => (readLines none rest).after pending
    | .opener opener, pending =>
      match opener.begin with
      | .ok next => (readLines (some next) rest).after pending
      | .error e => ⟨[], .error e⟩
    | .other, some p => readLines (some (p.feed s)) rest
    | .other, none =>
      let o := readLines none rest
      { o with ignored := s :: o.ignored }

/-- The outcome of reading a report. -/
def readChars (output : List Char) : Outcome :=
  readLines none (lines output)

/-- The outcome of reading a report. -/
def read (output : String) : Outcome :=
  readChars output.toList

end LintDaemon.Report
