/-!
# Diagnostics

A diagnostic is one finding of the compiler (section 3 of the specification). A place in the source
that is not known is missing, and both its parts may be missing on their own.
-/

namespace LintDaemon

/-- How severe a finding is. -/
inductive Severity
  /-- The source does not compile. -/
  | error
  /-- The source compiles, but looks wrong. -/
  | warning
  /-- A remark. -/
  | note
  /-- Anything else. -/
  | other
  deriving DecidableEq, Repr

/-- The name of a severity on the wire. -/
def Severity.name : Severity → String
  | .error => "ERROR"
  | .warning => "WARNING"
  | .note => "NOTE"
  | .other => "OTHER"

/-- One finding. Lines and columns count from 1; none is known if the compiler gave no place. -/
structure Diagnostic where
  /-- What the compiler says. -/
  message : String
  /-- The line of the source. -/
  line : Option Int
  /-- The column in that line. -/
  column : Option Int
  /-- How severe the finding is. -/
  severity : Severity
  deriving DecidableEq, Repr

end LintDaemon
