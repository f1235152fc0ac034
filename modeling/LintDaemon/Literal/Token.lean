import LintDaemon.Literal.Spelling
import LintDaemon.Text.Name

/-!
# Tokens of an expression

An expression is read as tokens: names, numbers, strings and marks. Ends of lines are tokens too,
but not between brackets.

* `Token`, `PlacedToken`: a token, and where it stands.
* `Ending`: how the tokens of a text end; not every text can be cut up to its end.
* `TokenList.ofText`: the tokens of a text.
-/

namespace LintDaemon.Literal

open LintDaemon.Text

/-- A token of an expression. -/
inductive Token
  /-- A name. -/
  | name (text : List Char)
  /-- A word with a meaning of its own, an operator, a bracket, or a sign without meaning. -/
  | mark (text : String)
  /-- A number. -/
  | number (n : Number)
  /-- A string. -/
  | string (q : Quotation)
  /-- The end of a line. -/
  | lineEnd
  /-- White space at the start of a line that is more than that of the lines before. -/
  | indent
  /-- The end of the text. -/
  | finish
  deriving DecidableEq, Repr

/-- A token and where it stands. -/
structure PlacedToken where
  /-- The token. -/
  token : Token
  /-- The line in which it begins. -/
  line : Nat
  /-- How many brackets are open behind it. -/
  depth : Nat
  /-- Whether the end of the text shows that it goes no further. -/
  endsText : Bool
  deriving DecidableEq, Repr

/-- An open bracket. -/
structure OpenBracket where
  /-- The bracket. -/
  bracket : Char
  /-- The line in which it stands. -/
  line : Nat
  deriving DecidableEq, Repr

/-- How the tokens of a text end. -/
inductive Ending
  /-- The whole text is cut. -/
  | complete
  /-- At a fault for which no other reason to refuse the text counts. -/
  | broken (fault : Fault)
  /-- At a fault that counts if the text is read so far; and the innermost bracket that is open
  there. -/
  | stopped (fault : Fault) (opened : Option OpenBracket)
  deriving DecidableEq, Repr

/-- The words with a meaning of their own. -/
def keywords : List String :=
  ["False", "None", "True", "and", "as", "assert", "async", "await", "break", "class", "continue",
   "def", "del", "elif", "else", "except", "finally", "for", "from", "global", "if", "import", "in",
   "is", "lambda", "nonlocal", "not", "or", "pass", "raise", "return", "try", "while", "with",
   "yield"]

/-- The operators of more than one character, the longer ones first. -/
def longOperators : List String :=
  ["**=", "...", "//=", "<<=", ">>=", "!=", "%=", "&=", "**", "*=", "+=", "-=", "->", "//", "/=",
   ":=", "<<", "<=", "<>", "==", ">=", ">>", "@=", "^=", "|="]

/-- The length of the longest operators. -/
def maxOperatorLength : Nat := 3

/-- How many brackets may be inside each other. -/
def maxDepth : Nat := 200

/-- The closing bracket of an opening one. -/
def closingOf? : Char → Option Char
  | '(' => some ')'
  | '[' => some ']'
  | '\x7b' => some '\x7d'
  | _ => none

/-- Closing brackets. -/
def isClosing (c : Char) : Bool :=
  c == ')' || c == ']' || c == '\x7d'

/-- How wide the white space at the start of a line is: with tabs that go on to the next multiple of
eight, and with tabs that are one wide. -/
structure Indentation where
  /-- With wide tabs. -/
  wide : Nat
  /-- With narrow tabs. -/
  narrow : Nat
  deriving DecidableEq, Repr

/-- A text that is being cut. -/
structure Cursor where
  /-- What is left of it. -/
  rest : List Char
  /-- The line. -/
  line : Nat
  /-- Whether a line begins here. -/
  isFresh : Bool
  /-- Whether the line holds nothing but perhaps a comment. -/
  isBlank : Bool
  /-- The brackets that are open, the innermost one first. -/
  opened : List OpenBracket
  /-- The indentations of the lines around this one, the widest one first. -/
  indentations : List Indentation

namespace Cursor

/-- A token at a cursor that ends by itself. -/
def place (c : Cursor) (token : Token) : PlacedToken :=
  ⟨token, c.line, c.opened.length, false⟩

/-- A token that ends where `rest` begins. -/
def take (c : Cursor) (token : Token) (rest : List Char) : Option PlacedToken × Cursor :=
  (some { c.place token with endsText := rest.isEmpty }, { c with rest })

/-- White space at the start of a line: how wide it is, how many lines it joins, and what follows
it. A backslash joins a line to the next one; then the first of them that is indented counts, as
wide as with wide tabs. -/
def indentation (first : Option Indentation) (w : Indentation) :
    List Char → Indentation × Nat × List Char
  | ' ' :: rest => indentation first ⟨w.wide + 1, w.narrow + 1⟩ rest
  | '\t' :: rest => indentation first ⟨(w.wide / 8 + 1) * 8, w.narrow + 1⟩ rest
  | '\x0c' :: rest => indentation first ⟨0, 0⟩ rest
  | '\\' :: '\n' :: c :: rest =>
    let first := first.or (if w.wide = 0 then none else some ⟨w.wide, w.wide⟩)
    let (w, lines, rest) := indentation first w (c :: rest)
    (w, lines + 1, rest)
  | rest => (first.getD w, 0, rest)

/-- The start of a line that holds something: more white space than before is a token, and less
has to be as much as that of a line around. -/
def indent (c : Cursor) (w : Indentation) : Except Ending (Option PlacedToken × Cursor) :=
  let uneven : Ending := .stopped .indented none
  let around := c.indentations.dropWhile (w.wide < ·.wide)
  let current := around.headD ⟨0, 0⟩
  if w.wide = current.wide then
    if w.narrow = current.narrow then .ok (none, { c with indentations := around })
    else .error uneven
  else if around.length < c.indentations.length ∨ w.narrow ≤ current.narrow then .error uneven
  else .ok (some (c.place .indent), { c with indentations := w :: around })

/-- The start of a line. -/
def beginLine (c : Cursor) : Except Ending (Option PlacedToken × Cursor) :=
  let (w, lines, rest) := indentation none ⟨0, 0⟩ c.rest
  let begun := { c with rest, line := c.line + lines, isFresh := false, isBlank := false }
  match rest with
  | '\\' :: _ => .ok (none, begun)
  | '#' :: _ | '\n' :: _ => .ok (none, { begun with isBlank := true })
  | _ => if c.opened = [] then begun.indent w else .ok (none, begun)

/-- A backslash, which joins a line to the next one. -/
def joinLine (c : Cursor) : List Char → Except Ending (Option PlacedToken × Cursor)
  | '\n' :: [] =>
    .error (.stopped (match c.opened with
      | [] => .unexpectedEnd
      | o :: _ => .neverClosed o.bracket) c.opened.head?)
  | '\n' :: rest => .ok (none, { c with rest, line := c.line + 1 })
  | _ => .error (.stopped .strayBackslash c.opened.head?)

/-- The first character of a name that may not stand where it does. -/
def strangeIn? : List Char → Option Char
  | [] => none
  | c :: rest => if beginsName c then rest.find? (fun c => !continuesName c) else some c

/-- A name or a word with a meaning of its own. -/
def name (c : Cursor) : Except Ending (Option PlacedToken × Cursor) :=
  let text := c.rest.takeWhile isNameChar
  let rest := c.rest.drop text.length
  if text.any (128 ≤ ·.toNat) then
    match strangeIn? text with
    | some strange => .error (.broken (.character strange))
    | none => .ok (c.take (.name text) rest)
  else
    let word := String.ofList text
    .ok (c.take (if word ∈ keywords then .mark word else .name text) rest)

/-- A bracket or another single character. -/
def sign (c : Cursor) (s : Char) (rest : List Char) :
    Except Ending (Option PlacedToken × Cursor) :=
  let mark := Token.mark s.toString
  if (closingOf? s).isSome then
    if maxDepth ≤ c.opened.length then .error (.broken .tooManyBrackets)
    else .ok ({ c with opened := ⟨s, c.line⟩ :: c.opened }.take mark rest)
  else if isClosing s then
    match c.opened with
    | [] => .error (.broken (.unmatched s))
    | o :: opened =>
      if closingOf? o.bracket = some s then .ok ({ c with opened }.take mark rest)
      else
        let line := if o.line = c.line then none else some o.line
        .error (.broken (.mismatched s o.bracket line))
  else if isPrintable s then .ok (c.take mark rest)
  else .error (.broken (.character s))

/-- An operator, a bracket or another sign. -/
def operator (c : Cursor) (s : Char) (rest : List Char) :
    Except Ending (Option PlacedToken × Cursor) :=
  match longOperators.find? fun operator => operator.toList.isPrefixOf (s :: rest) with
  | some operator =>
    let rest := (s :: rest).drop operator.length
    .ok (if operator.length < maxOperatorLength then c.take (.mark operator) rest
      else (some (c.place (.mark operator)), { c with rest }))
  | none => c.sign s rest

/-- Whether a number begins at the start of a text. -/
def beginsNumber : List Char → Bool
  | '.' :: c :: _ => c.isDigit
  | c :: _ => c.isDigit
  | [] => false

/-- How many quotes there are around an empty string with long quotes. -/
def longQuotes : Nat := 6

/-- The string at a cursor. The quotes of an empty one could be the first two of three. -/
def string? (c : Cursor) : Option (Except Ending (Option PlacedToken × Cursor)) :=
  (Quotation.read? c.line c.rest).map fun
    | .error fault => .error (.broken fault)
    | .ok (q, rest) =>
      let passed := c.rest.take (c.rest.length - rest.length)
      let endsText := q.body.isEmpty && passed.length < longQuotes && rest.isEmpty
      .ok (some { c.place (.string q) with endsText },
        { c with rest, line := c.line + passed.count '\n' })

/-- The token at a cursor, if there is one, and the cursor behind it. -/
def next (c : Cursor) : Except Ending (Option PlacedToken × Cursor) :=
  if c.isFresh then c.beginLine
  else
    match c.rest with
    | [] =>
      .error (match c.opened with
        | [] => .complete
        | o :: _ => .stopped (.neverClosed o.bracket) (some o))
    | '#' :: rest => .ok (none, { c with rest := rest.dropWhile (· != '\n') })
    | '\n' :: rest =>
      let behind := { c with rest, line := c.line + 1, isFresh := true }
      .ok (if c.isBlank || c.opened != [] then none else some (c.place .lineEnd), behind)
    | '\\' :: rest => c.joinLine rest
    | s :: rest =>
      if s = ' ' ∨ s = '\t' ∨ s = '\x0c' then .ok (none, { c with rest })
      else
        c.string?.getD <|
          if beginsNumber (s :: rest) then
            match Number.read (s :: rest) with
            | .error fault => .error (.broken fault)
            | .ok (n, rest) => .ok (c.take (.number n) rest)
          else if isNameChar s then c.name
          else c.operator s rest

end Cursor

/-- The tokens of a text, and how they end. -/
structure TokenList where
  /-- The tokens. -/
  tokens : List PlacedToken
  /-- How they end. -/
  ending : Ending
  deriving DecidableEq, Repr

namespace TokenList

/-- The tokens from a cursor on; a token takes at most two steps for each of its characters. -/
def ofCursor : Nat → Cursor → TokenList
  | 0, _ => ⟨[], .complete⟩
  | fuel + 1, c =>
    match c.next with
    | .error .complete => ⟨[c.place .finish], .complete⟩
    | .error ending => ⟨[], ending⟩
    | .ok (token, c) =>
      let further := ofCursor fuel c
      { further with tokens := token.toList ++ further.tokens }

/-- A text whose lines all end in the same way. -/
def withPlainLineEnds : List Char → List Char
  | '\r' :: '\n' :: rest => '\n' :: withPlainLineEnds rest
  | '\r' :: rest => '\n' :: withPlainLineEnds rest
  | c :: rest => c :: withPlainLineEnds rest
  | [] => []

/-- The tokens of a text. -/
def ofText (s : List Char) : TokenList :=
  let s := withPlainLineEnds s
  ofCursor (2 * s.length + 2) ⟨s, 1, true, false, [], []⟩

end TokenList

end LintDaemon.Literal
