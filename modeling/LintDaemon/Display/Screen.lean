import LintDaemon.Host.Machine
import LintDaemon.Terminal.Screen

/-!
# The screen of a machine

What is shown goes to the standard output, which is taken for a file as long as the environment
does not say that it is a terminal.

* `Machine.screen`: the screen that the environment describes.

Scope: a terminal is never asked for its size; where the variables do not tell it, it is the usual
one. Screens of notebooks and of other systems are left out.
-/

namespace LintDaemon

open LintDaemon.Text LintDaemon.Terminal

namespace Machine

/-- A number of cells that a variable gives. A variable that holds anything but signs of digits
gives none; one that holds decorated digits is an error. -/
def cells? (m : Machine) (name : String) : Except Numeral.IntError (Option Nat) :=
  let text := ((m.envValue? name).getD "").toList
  if text ≠ [] ∧ text.all isDigitSign then (Numeral.int text).map fun n => some n.toNat
  else .ok none

/-- A variable in lower case without white space around it; the empty text if it is not set. -/
def word (m : Machine) (name : String) : List Char :=
  lower (trim ((m.envValue? name).getD "").toList)

/-- Whether the environment says that the output is a terminal. -/
def isTerminal (m : Machine) : Bool :=
  match m.envValue? "TTY_COMPATIBLE" with
  | some "0" => false
  | some "1" => true
  | _ => ((m.envValue? "FORCE_COLOR").getD "") != ""

/-- Whether the terminal can do no more than write lines. -/
def isDumb (m : Machine) : Bool :=
  let kind := lower ((m.envValue? "TERM").getD "").toList
  kind = "dumb".toList || kind = "unknown".toList

/-- The colours of the terminal: they follow from what it says of itself or, if it says nothing,
from what the name of its kind ends with. -/
def palette (m : Machine) : Palette :=
  let colors := m.word "COLORTERM"
  let kind := (fields '-' (m.word "TERM")).getLast?.getD []
  if colors = "truecolor".toList ∨ colors = "24bit".toList then .full
  else if kind = "kitty".toList ∨ kind = "256color".toList then .numbered
  else .standard

/-- How many cells a line has if nothing is known. -/
def defaultWidth : Nat := 80

/-- The screen that the environment describes. A terminal that can do no more than write lines has
the width that is usual, unless its width and its height are given. -/
def screen (m : Machine) : Except Numeral.IntError Screen := do
  let width ← m.cells? "COLUMNS"
  let height ← m.cells? "LINES"
  let isPlain := m.isTerminal && m.isDumb
  return {
    width := if isPlain && height.isNone then defaultWidth else width.getD defaultWidth
    palette := if m.isTerminal && !isPlain then some m.palette else none
    colorless := ((m.envValue? "NO_COLOR").getD "") != "" }

end Machine

end LintDaemon
