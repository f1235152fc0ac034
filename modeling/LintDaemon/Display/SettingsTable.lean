import LintDaemon.Settings.Basic
import LintDaemon.Terminal.Table

/-!
# Settings as a table

* `settingsTable`: the table of all settings.

This is what section 6 of the specification calls `settings show`.
-/

namespace LintDaemon.Display

open LintDaemon.Terminal

/-- The names and values of settings, in their order. -/
def settingsRows (s : Settings) : List (String × String) :=
  [("host", s.host), ("port", toString s.port), ("read_timeout", s.readTimeout.toText),
   ("compile_timeout", s.compileTimeout.toText), ("classpath", s.classpath),
   ("jdk_home", s.jdkHome.getD ""), ("log_level", s.logLevel)]

/-- The markup for a value that is not set. -/
def notSet : String := "[dim]not set[/dim]"

/-- A style of one colour. -/
def colored (name : String) : Style :=
  { Style.plain with
    foreground := (colorNames.lookup name).map fun n => ⟨name.toList, .numbered n⟩ }

/-- The columns of a table of settings. -/
def settingsColumns : List Column :=
  [⟨"Setting".toList, .left, some 18, colored "cyan"⟩,
   ⟨"Value".toList, .left, none, colored "green"⟩]

/-- The table of all settings. -/
def settingsTable (s : Settings) : Table where
  title := some "javalint Configuration".toList
  columns := settingsColumns
  rows := (settingsRows s).map fun (name, value) =>
    [name.toList, (if value = "" then notSet else value).toList]

end LintDaemon.Display
