import LintDaemon.Text.Line
import LintDaemon.Text.Utf8

/-!
# Text read while it arrives

A text that is read line by line: its bytes are decoded and its line ends are unified as they
come, so a line is there before anything behind it is known.

* `Incoming.decode`: the characters of all bytes, and the fault of what is open at their end.
* `Incoming.lines`: the lines that can be read.
* `Incoming.firstLine`: the first line.

Scope: the bytes arrive in one piece. A decoder that gets them in several meets a fault when it gets
to its piece, when lines of the pieces before have been read already, and counts its place from
there. For bytes that are text this makes no difference.
-/

namespace LintDaemon.Text.Incoming

/-- The characters of bytes that arrive, and the fault of what is still open at their end. That
fault is met only when all lines have been read, and its place is counted from where what is open
begins. -/
def decode (bytes : List UInt8) :
    Except Utf8.DecodeError (List Char × Option Utf8.DecodeError) := do
  let text ← Utf8.charsFrom 0 (Utf8.settledPieces bytes)
  match Utf8.charsFrom 0 (Utf8.openPieces bytes) with
  | .ok _ => return (text, none)
  | .error e => return (text, some e)

/-- The lines of a text, each with its end. Of a text that breaks off these are the complete ones;
a carriage return at its end is held back. -/
def lines (text : List Char) (breaksOff : Bool) : List (List Char) :=
  if breaksOff then
    (linesWithEnds (normalizeNewlines (withoutLastReturn text))).filter (·.getLast? == some '\n')
  else linesWithEnds (normalizeNewlines text)

/-- The first line with its end; the empty text if nothing arrives. -/
def firstLine (bytes : List UInt8) : Except Utf8.DecodeError (List Char) := do
  let (text, broken) ← decode bytes
  match (lines text broken.isSome).head?, broken with
  | some line, _ => return line
  | none, some e => throw e
  | none, none => return []

end LintDaemon.Text.Incoming
