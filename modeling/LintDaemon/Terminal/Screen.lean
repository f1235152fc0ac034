import LintDaemon.Terminal.Highlight
import LintDaemon.Terminal.Markup

/-!
# The screen

Where text is shown: a terminal, or a file that is written as if it were one.

* `Screen.showLines`: lines cut to the width and written.
* `Screen.showMarkup`: a marked-up text, put on lines and written.

Scope: what is written goes on from the start of a line; cursor, alternate screens, links and
recording are left out.
-/

namespace LintDaemon.Terminal

open LintDaemon.Text

/-- Where text is shown. -/
structure Screen where
  /-- How many cells a line has. -/
  width : Nat
  /-- The colours of the terminal; none where styles cannot be shown. -/
  palette : Option Palette
  /-- Whether colours are left out of the styles. -/
  colorless : Bool
  deriving DecidableEq, Repr

/-- A line of segments. -/
abbrev Line := List Segment

namespace Line

/-- The cells of a line, each segment counted for itself. -/
def cells (line : Line) : Nat :=
  totalCells (line.map fun s => cellCount s.text)

/-- A line cut to a width. -/
def cut : Nat → Line → Line
  | _, [] => []
  | room, s :: rest =>
    let n := cellCount s.text
    if n < room then s :: cut (room - n) rest
    else [{ s with text := fit s.text room }]

/-- A line cut or padded to a width, with spaces of a style. -/
def shape (style : Style) (width : Nat) (line : Line) : Line :=
  if line.cells < width then line ++ [⟨blanks (width - line.cells), style⟩]
  else if width < line.cells then line.cut width
  else line

end Line

namespace Screen

/-- A segment as it is written. -/
def paint (screen : Screen) (s : Segment) : List Char :=
  match screen.palette with
  | none => s.text
  | some palette =>
    (if screen.colorless then s.style.withoutColors else s.style).paint palette s.text

/-- A line as it is written; one that is wider than the screen is cut. -/
def showLine (screen : Screen) (line : Line) : List Char :=
  (if screen.width < line.cells then line.cut screen.width else line).flatMap screen.paint ++
    ['\n']

/-- Lines as they are written. -/
def showLines (screen : Screen) (lines : List Line) : String :=
  String.ofList (lines.flatMap screen.showLine)

/-- A marked-up text as it is written, with highlights below its own styles. Nothing can be shown
on a screen without width. -/
def showMarkup (screen : Screen) (s : List Char) : Except Markup.Error String := do
  let text ← Markup.read [] s
  let text := { text with spans := highlights text.chars ++ text.spans }
  if screen.width = 0 then return ""
  else
    let lines ← (text.wrap screen.width .fold .natural).mapM fun line =>
      line.segments.mapError .number
    return screen.showLines lines

end Screen

end LintDaemon.Terminal
