import LintDaemon.Diagnostic
import LintDaemon.Json.Writer
import LintDaemon.Number.Numeral

/-!
# Replies

A reply is one line of JSON: a list of diagnostics, or an object with an error message.

* `Reply`: what comes of a request.
* `Reply.diagnosticsLine`, `Reply.errorLine`: the two kinds of line, without the line feed.
* `Reply.isWritable`: whether every place among diagnostics is short enough to be written.

A place that is not known is written as -1.

This is the wire serializer of section 4.5 of the specification (`serialize_diagnostics`,
`serialize_error`) and the value that section 4.3 calls a reply.
-/

namespace LintDaemon

/-- What comes of a request: the line sent back, if there is one, and whether the daemon ends. -/
structure Reply where
  /-- The line without its line feed. -/
  line : Option String
  /-- Whether the daemon ends. -/
  terminate : Bool
  deriving DecidableEq, Repr

namespace Reply

open LintDaemon.Json

/-- Nothing is sent back. -/
def silent : Reply := ⟨none, false⟩

/-- A line is sent back. -/
def ofLine (line : String) : Reply := ⟨some line, false⟩

/-- Nothing is sent back, and the daemon ends. -/
def terminating : Reply := ⟨none, true⟩

/-- A line or column on the wire. -/
def position (place : Option Int) : String :=
  String.ofList (writeInt (place.getD (-1)))

/-- Whether a line or column has no more digits than a number that is written may have. -/
def isWritablePlace (place : Option Int) : Bool :=
  place.all fun n => (Nat.toDigits 10 n.natAbs).length ≤ Numeral.maxDigits

/-- Whether every line and column of diagnostics can be written. -/
def isWritable (ds : List Diagnostic) : Bool :=
  ds.all fun d => isWritablePlace d.line && isWritablePlace d.column

/-- The wording for a line or column with too many digits to be written. -/
def unwritableMessage : String :=
  "Exceeds the limit (" ++ toString Numeral.maxDigits ++
    " digits) for integer string conversion; use sys.set_int_max_str_digits() to increase the limit"

/-- A diagnostic as an object of four texts. -/
def diagnosticValue (d : Diagnostic) : Value :=
  .object
    [("message", .string d.message), ("line", .string (position d.line)),
      ("position", .string (position d.column)), ("type", .string d.severity.name)]

/-- Diagnostics as a list of objects, in their order. -/
def diagnosticsValue (ds : List Diagnostic) : Value :=
  .array (ds.map diagnosticValue)

/-- An error message as an object. -/
def errorValue (message : String) : Value :=
  .object [("error", .string message)]

/-- The reply line that reports diagnostics. -/
def diagnosticsLine (ds : List Diagnostic) : String :=
  render (diagnosticsValue ds)

/-- The reply line that reports an error. -/
def errorLine (message : String) : String :=
  render (errorValue message)

end Reply

end LintDaemon
