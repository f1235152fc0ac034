/-!
# The log

* `LogEntry`: one message and how important it is.
* `LogEntry.visible`: the entries that a threshold lets through.
* `thresholdOfName?`: the thresholds that settings can name.

This is the log of section 8.1 of the specification. Times, tracebacks and the format of a line are
left out: what is logged is told by level and message.
-/

namespace LintDaemon

/-- How important an entry is. -/
inductive LogLevel
  /-- Details of the work. -/
  | debug
  /-- What the daemon does. -/
  | info
  /-- Something that should not be. -/
  | warning
  /-- Something that failed. -/
  | error
  deriving DecidableEq, Repr

/-- The name of a level. -/
def LogLevel.name : LogLevel → String
  | .debug => "DEBUG"
  | .info => "INFO"
  | .warning => "WARNING"
  | .error => "ERROR"

/-- The rank of a level. -/
def LogLevel.rank : LogLevel → Nat
  | .debug => 10
  | .info => 20
  | .warning => 30
  | .error => 40

/-- One message of the log. -/
structure LogEntry where
  /-- How important it is. -/
  level : LogLevel
  /-- What it says. -/
  message : String
  deriving DecidableEq, Repr

/-- The rank from which on entries are logged, by its name. Names are in upper case, and two
ranks have two names. -/
def thresholdOfName? : String → Option Nat
  | "CRITICAL" | "FATAL" => some 50
  | "ERROR" => some 40
  | "WARNING" | "WARN" => some 30
  | "INFO" => some 20
  | "DEBUG" => some 10
  | "NOTSET" => some 0
  | _ => none

/-- The threshold where no settings say otherwise. -/
def defaultThreshold : Nat := LogLevel.info.rank

/-- The entries at or above a threshold. -/
def LogEntry.visible (threshold : Nat) (entries : List LogEntry) : List LogEntry :=
  entries.filter (threshold ≤ ·.level.rank)

end LintDaemon
