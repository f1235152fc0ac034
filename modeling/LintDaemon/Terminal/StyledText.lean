import LintDaemon.Terminal.Cells
import LintDaemon.Terminal.Theme

/-!
# Styled text

A styled text is a list of characters and the styles that are laid over stretches of it. A stretch
may be empty; it shows no style, but the text is cut there when it is written.

* `StyledText.wrap`: a text put on lines of a width.
* `StyledText.segments`: a line cut where stretches begin and end.
-/

namespace LintDaemon.Terminal

open LintDaemon.Text

/-- A style laid over the characters from one offset up to another. -/
structure Span where
  /-- The first character. -/
  start : Nat
  /-- The character behind the last one. -/
  stop : Nat
  /-- The name of the style. -/
  style : List Char
  deriving DecidableEq, Repr

/-- Characters with styles laid over them. -/
structure StyledText where
  /-- The characters. -/
  chars : List Char
  /-- The name of the style of the whole text; the empty name if it has none. -/
  base : List Char
  /-- The stretches, the lowest one first. -/
  spans : List Span
  deriving DecidableEq, Repr

/-- Characters of one style. -/
structure Segment where
  /-- The characters. -/
  text : List Char
  /-- The style. -/
  style : Style
  deriving DecidableEq, Repr

/-- How lines are placed in a width. -/
inductive Alignment
  /-- At the left, as long as they are. -/
  | natural
  /-- At the left, padded to the width. -/
  | left
  /-- In the middle, padded on both sides; what cannot be halved goes to the right. -/
  | center
  /-- At the right, padded at the left. -/
  | right
  deriving DecidableEq, Repr

/-- What happens to a word that is longer than a line. -/
inductive Overflow
  /-- It goes on in the next line. -/
  | fold
  /-- It is cut, and an ellipsis is put at its end. -/
  | ellipsis
  deriving DecidableEq, Repr

/-- A span further behind. -/
def Span.shift (n : Nat) (s : Span) : Span :=
  { s with start := s.start + n, stop := s.stop + n }

/-- What is left of a span in the first characters of a text, if it begins there. -/
def Span.within? (length : Nat) (s : Span) : Option Span :=
  if s.start < length then some { s with stop := min s.stop length } else none

/-- The part of a span between two offsets, counted from the first of them, if it is not empty. -/
def Span.between? (start stop : Nat) (s : Span) : Option Span :=
  let first := s.start - start
  let last := min s.stop stop - start
  if first < last then some { s with start := first, stop := last } else none

/-- Spaces. -/
def blanks (n : Nat) : List Char :=
  List.replicate n ' '

namespace StyledText

/-- The number of characters. -/
def length (t : StyledText) : Nat :=
  t.chars.length

/-- The cells of a text. -/
def cells (t : StyledText) : Nat :=
  cellCount t.chars

/-- Other characters under the styles of a text. If they are fewer, what is laid behind them goes.
-/
def retype (t : StyledText) (chars : List Char) : StyledText :=
  if chars.length < t.length then
    { t with chars, spans := t.spans.filterMap (Span.within? chars.length) }
  else { t with chars }

/-- Characters of a text, the first of them at an offset, under the styles that are laid over
them. -/
def piece (t : StyledText) (start : Nat) (chars : List Char) : StyledText :=
  { t with chars, spans := t.spans.filterMap (Span.between? start (start + chars.length)) }

/-- The pieces between offsets of a text whose last characters begin at an offset. -/
def piecesFrom (t : StyledText) (start : Nat) (chars : List Char) : List Nat → List StyledText
  | [] => [t.piece start chars]
  | offset :: rest =>
    t.piece start (chars.take (offset - start)) ::
      t.piecesFrom offset (chars.drop (offset - start)) rest

/-- A text cut at offsets. If there are none it stays as it is. -/
def cutAt (t : StyledText) (offsets : List Nat) : List StyledText :=
  if offsets = [] then [t] else t.piecesFrom 0 t.chars offsets

/-- Spaces put in front of a text. -/
def indent (n : Nat) (t : StyledText) : StyledText :=
  { t with chars := blanks n ++ t.chars, spans := t.spans.map (Span.shift n) }

/-- Spaces put behind a text. -/
def pad (n : Nat) (t : StyledText) : StyledText :=
  { t with chars := t.chars ++ blanks n }

/-- Spaces put behind a text, under the styles that reach to its end. -/
def prolong (n : Nat) (t : StyledText) : StyledText :=
  { t with
    chars := t.chars ++ blanks n
    spans := t.spans.map fun s => if t.length ≤ s.stop then { s with stop := s.stop + n } else s }

/-- All styles of a text, the lowest one first: that of the whole, and those laid over it. -/
def allSpans (t : StyledText) : List Span :=
  if t.base = [] then t.spans else ⟨0, t.length, t.base⟩ :: t.spans

/-- Texts put behind each other, counted from an offset, with all their styles laid over the
whole. -/
def joinFrom (offset : Nat) : List StyledText → List Char × List Span
  | [] => ([], [])
  | t :: rest =>
    let (chars, spans) := joinFrom (offset + t.length) rest
    (t.chars ++ chars, t.allSpans.map (Span.shift offset) ++ spans)

/-! ## Lines -/

/-- The offsets of the characters that satisfy `p`, counted from an offset. -/
def offsetsOf (p : Char → Bool) (offset : Nat) : List Char → List Nat
  | [] => []
  | c :: rest =>
    if p c then offset :: offsetsOf p (offset + 1) rest else offsetsOf p (offset + 1) rest

/-- The pieces between line feeds of a text whose last characters begin at an offset. -/
def linesFrom (t : StyledText) (start : Nat) (chars : List Char) : List Nat → List StyledText
  | [] => [t.piece start chars]
  | feed :: rest =>
    t.piece start (chars.take (feed - start)) ::
      t.linesFrom (feed + 1) (chars.drop (feed + 1 - start)) rest

/-- The lines of a text; there is always at least one. -/
def splitLines (t : StyledText) : List StyledText :=
  match offsetsOf (· == '\n') 0 t.chars with
  | [] => [t]
  | feeds => t.linesFrom 0 t.chars feeds

/-- How far apart tab stops are. -/
def tabSize : Nat := 8

/-- Parts of a line that end with a tab, which becomes spaces up to the next tab stop. `column`
counts the cells in front of them. -/
def expandParts (column : Nat) : List StyledText → List StyledText
  | [] => []
  | part :: rest =>
    if part.chars.getLast? = some '\t' then
      let part := { part with chars := part.chars.dropLast ++ [' '] }
      let reached := column + part.cells
      let stop := (reached + tabSize - 1) / tabSize * tabSize
      part.prolong (stop - reached) :: expandParts stop rest
    else part :: expandParts (column + part.cells) rest

/-- A line whose tabs become spaces. Each part up to a tab takes the style of the whole for
itself. -/
def expandTabs (line : StyledText) : StyledText :=
  match offsetsOf (· == '\t') 1 line.chars with
  | [] => line
  | ends =>
    let parts := (line.cutAt ends).filter (·.chars ≠ [])
    let (chars, spans) := joinFrom 0 (expandParts 0 parts)
    { line with chars, spans }

/-- The words of a line, each with the white space behind it, the first one also with that in
front of it. -/
def wordsOf (line : List Char) : List (List Char) :=
  match line.splitBy fun a b => !(isBlank a && !isBlank b) with
  | [] => []
  | [only] => if allBlank only then [] else [only]
  | first :: second :: rest =>
    if allBlank first then (first ++ second) :: rest else first :: second :: rest

/-- Where a line is broken. -/
structure Breaking where
  /-- The offset of the next word. -/
  offset : Nat
  /-- The cells taken on the current line. -/
  cells : Nat
  /-- The offsets of the breaks, the last one first. -/
  breaks : List Nat

/-- A break at an offset; there is none at the start of a line. -/
def Breaking.breakAt (b : Breaking) (offset : Nat) : Breaking :=
  if offset = 0 then b else { b with breaks := offset :: b.breaks }

/-- A word that is longer than a line, put on lines of its own piece by piece. -/
def Breaking.fold (b : Breaking) (offset : Nat) : List (List Char) → Breaking
  | [] => b
  | [piece] => { b.breakAt offset with cells := cellCount piece }
  | piece :: rest => (b.breakAt offset).fold (offset + piece.length) rest

/-- A word put behind the words before it, or on a new line. -/
def Breaking.add (width : Nat) (overflow : Overflow) (b : Breaking) (word : List Char) :
    Breaking :=
  let shown := cellCount (trimEnd word)
  let placed :=
    if b.cells + shown ≤ width then { b with cells := b.cells + cellCount word }
    else if width < shown then
      match overflow with
      | .fold => b.fold b.offset (chop width word)
      | .ellipsis => { b.breakAt b.offset with cells := cellCount word }
    else if b.cells = 0 ∨ b.offset = 0 then b
    else { b.breakAt b.offset with cells := cellCount word }
  { placed with offset := b.offset + word.length }

/-- The offsets at which a line is broken to fit into a width. -/
def breaksOf (width : Nat) (overflow : Overflow) (line : List Char) : List Nat :=
  ((wordsOf line).foldl (Breaking.add width overflow) ⟨0, 0, []⟩).breaks.reverse

/-- A line without the white space at its end by which it is too long. -/
def trimExcess (width : Nat) (line : StyledText) : StyledText :=
  let blank := (line.chars.reverse.takeWhile isBlank).length
  line.retype (line.chars.take (line.length - min blank (line.length - width)))

/-- A line without white space at its end. -/
def trimEnd (line : StyledText) : StyledText :=
  line.retype (Text.trimEnd line.chars)

/-- A line cut to a width. -/
def truncate (width : Nat) (overflow : Overflow) (line : StyledText) : StyledText :=
  if line.cells ≤ width then line
  else
    match overflow with
    | .fold => line.retype (fit line.chars width)
    | .ellipsis => line.retype (fit line.chars (width - 1) ++ ['…'])

/-- A line placed in a width. -/
def align (width : Nat) (overflow : Overflow) (alignment : Alignment) (line : StyledText) :
    StyledText :=
  match alignment with
  | .natural => line
  | .left =>
    let cut := line.truncate width overflow
    cut.pad (width - line.cells)
  | .center =>
    let line := line.trimEnd.truncate width overflow
    let line := line.indent ((width - line.cells) / 2)
    line.pad (width - line.cells)
  | .right =>
    let line := line.trimEnd.truncate width overflow
    line.indent (width - line.cells)

/-- A text put on lines of a width. -/
def wrap (width : Nat) (overflow : Overflow) (alignment : Alignment) (t : StyledText) :
    List StyledText :=
  t.splitLines.flatMap fun line =>
    let line := line.expandTabs
    (line.cutAt (breaksOf width overflow line.chars)).map fun part =>
      ((part.trimExcess width).align width overflow alignment).truncate width overflow

/-! ## Segments -/

/-- The style of the characters behind an offset: the styles that are laid over them, each over
those before it. -/
def styleAt (styles : List (Span × Style)) (offset : Nat) : Style :=
  (styles.filter fun (s, _) => s.start ≤ offset && offset < s.stop).foldl
    (fun base (_, style) => style.onTop base) Style.plain

/-- The offsets strictly inside a text at which stretches begin or end, in their order. -/
def boundaries (t : StyledText) : List Nat :=
  let ends := t.allSpans.flatMap fun s => [s.start, s.stop]
  (List.range t.length).filter fun n => 0 < n && ends.contains n

/-- Stretches of characters between boundaries, from an offset on, each with its style. -/
def segmentsFrom (styles : List (Span × Style)) (offset : Nat) (chars : List Char) :
    List Nat → List Segment
  | [] => if chars = [] then [] else [⟨chars, styleAt styles offset⟩]
  | boundary :: rest =>
    ⟨chars.take (boundary - offset), styleAt styles offset⟩ ::
      segmentsFrom styles boundary (chars.drop (boundary - offset)) rest

/-- A line cut where stretches begin and end. -/
def segments (line : StyledText) : Except Numeral.IntError (List Segment) := do
  let styles ← line.allSpans.mapM fun s => (Theme.styleOf s.style).map fun style => (s, style)
  return segmentsFrom styles 0 line.chars line.boundaries

end StyledText

end LintDaemon.Terminal
