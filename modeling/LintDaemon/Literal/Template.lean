import LintDaemon.Literal.Token

/-!
# Templates

A string may be a template: it has fields, expressions in braces that are to be filled in. A brace
that stands twice is text. Behind the expression of a field may stand an equals sign, a letter that
says how its value is shown, and a form for it, which may have fields itself.

* `Template.fault?`: why a template cannot be read.
-/

namespace LintDaemon.Literal.Template

/-! ## Text -/

/-- What stands behind a stretch of text in a template. -/
inductive Behind
  /-- The end of the template. -/
  | nothing
  /-- A brace that begins or ends a field. -/
  | brace
  /-- More text; a second brace is passed. -/
  | text
  /-- A closing brace without a field. -/
  | loneBrace
  deriving DecidableEq, Repr

/-- A stretch of text, what stands behind it, and the rest. -/
abbrev Stretch : Type :=
  List Char × Behind × List Char

/-- A stretch with more characters in front. -/
def Stretch.after (front : List Char) (s : Stretch) : Stretch :=
  (front ++ s.1, s.2)

/-- A name up to the brace that closes it, and the rest. -/
def throughBrace : List Char → List Char × List Char
  | [] => ([], [])
  | c :: rest =>
    if c = '\x7d' then ([c], rest) else let (name, rest) := throughBrace rest; (c :: name, rest)

/-- A brace in front of a text. -/
def atBrace (isNested : Bool) (c : Char) (rest : List Char) : Stretch :=
  if !isNested && rest.head? = some c then ([c], .text, rest.tail)
  else if !isNested && c == '\x7d' then ([], .loneBrace, rest)
  else ([], .brace, c :: rest)

/-- The stretch of text at the start of a template. Unless it is raw, the name of a character
behind a backslash is text with its braces. -/
def stretch (isRaw isNested : Bool) : Nat → List Char → Stretch
  | 0, s => ([], .nothing, s)
  | _, [] => ([], .nothing, [])
  | fuel + 1, c :: rest =>
    if c = '\\' ∧ !isRaw then
      match rest with
      | 'N' :: '\x7b' :: rest =>
        let (name, rest) := throughBrace rest
        (stretch isRaw isNested fuel rest).after (c :: 'N' :: '\x7b' :: name)
      | 'N' :: d :: rest => (stretch isRaw isNested fuel rest).after [c, 'N', d]
      | d :: rest =>
        if d = '\x7b' ∨ d = '\x7d' then (atBrace isNested d rest).after [c]
        else (stretch isRaw isNested fuel rest).after [c, d]
      | [] => ([c], .nothing, [])
    else if c = '\x7b' ∨ c = '\x7d' then atBrace isNested c rest
    else (stretch isRaw isNested fuel rest).after [c]

/-! ## Fields -/

/-- A string in the expression of a field. -/
structure OpenString where
  /-- Its quote. -/
  quote : Char
  /-- Whether there are three of them. -/
  isLong : Bool
  deriving DecidableEq, Repr

/-- Signs that end the expression of a field outside brackets. -/
def endsExpression (c : Char) : Bool :=
  "!:=\x7d".toList.contains c

/-- Signs that compare if an equals sign follows them. -/
def mayCompare (c : Char) : Bool :=
  "!=<>".toList.contains c

/-- The expression of a field, and what follows it. `skip` counts characters still to be passed,
`inside` is the string that is open, and `opened` are the brackets that are open. -/
def expression : Nat → Option OpenString → List Char → List Char →
    Except FieldFault (List Char × List Char)
  | _, some _, _, [] => .error .unterminated
  | _, none, o :: _, [] => .error (.unmatched o)
  | _, none, [], [] => .ok ([], [])
  | skip, inside, opened, c :: rest =>
    let onward skip inside opened :=
      (expression skip inside opened rest).map fun (e, rest) => (c :: e, rest)
    let isTriple := [c, c].isPrefixOf rest
    match skip, inside with
    | skip + 1, _ => onward skip inside opened
    | 0, some s =>
      if c = '\\' then .error .backslash
      else if c ≠ s.quote then onward 0 inside opened
      else if !s.isLong then onward 0 none opened
      else if isTriple then onward 2 none opened
      else onward 0 inside opened
    | 0, none =>
      if c = '\\' then .error .backslash
      else if c = '\x27' ∨ c = '\x22' then
        onward (if isTriple then 2 else 0) (some ⟨c, isTriple⟩) opened
      else if (closingOf? c).isSome then
        if maxDepth ≤ opened.length then .error .tooManyBrackets else onward 0 none (c :: opened)
      else if c = '#' then .error .comment
      else if opened = [] ∧ mayCompare c ∧ rest.head? = some '=' then onward 1 none opened
      else if opened = [] ∧ endsExpression c then .ok ([], c :: rest)
      else if isClosing c then
        match opened with
        | [] => .error (.unmatched c)
        | o :: opened =>
          if closingOf? o = some c then onward 0 none opened else .error (.mismatched c o)
      else onward 0 none opened

/-- White space that an expression may consist of without being one. -/
def isEmptySpace (c : Char) : Bool :=
  c == ' ' || c == '\t' || c == '\n' || c == '\x0c'

/-- White space that may follow the equals sign of a field. -/
def isSpace (c : Char) : Bool :=
  isEmptySpace c || c == '\x0b' || c == '\r'

/-- Why there is no expression in front of the rest of a field. -/
def emptyFault : List Char → FieldFault
  | c :: _ => if c = '\x7d' then .empty else .emptyBefore c
  | [] => .empty

/-- What follows an equals sign behind an expression, if there is one. -/
def afterEquals : List Char → Except FieldFault (List Char)
  | '=' :: rest =>
    match rest.dropWhile isSpace with
    | [] => .error .braceExpected
    | rest => .ok rest
  | rest => .ok rest

/-- What follows the letter that says how a value is shown, if there is one. -/
def afterConversion : List Char → Except FieldFault (List Char)
  | '!' :: [] => .error .braceExpected
  | '!' :: c :: rest => if "sra".toList.contains c then .ok rest else .error .conversion
  | rest => .ok rest

/-- How many templates may lie inside each other. -/
def maxNesting : Nat := 2

/-- What follows the expression of a field, with an equals sign and a letter for how it is shown: a
form or the end of the field. -/
def readExpression (read : List Char → Option Fault) (nesting : Nat) (s : List Char) :
    Except Fault (List Char) := do
  if maxNesting ≤ nesting then throw (.field .tooDeep)
  let (e, rest) ← (expression 0 none [] s).mapError .field
  if rest = [] then throw (.field .braceExpected)
  if e.all isEmptySpace then throw (.field (emptyFault rest))
  if let some f := read e then throw f
  let rest ← (afterEquals rest).mapError .field
  (afterConversion rest).mapError .field

/-- What follows the text and the fields of a template, which for one inside a field begins with
the brace that closes it. Every piece has a character. -/
def readPieces (read : List Char → Option Fault) (isRaw : Bool) :
    Nat → Nat → List Char → Except Fault (List Char)
  | 0, _, s => .ok s
  | fuel + 1, nesting, s => do
    let (text, behind, s) := stretch isRaw (nesting != 0) (s.length + 1) s
    if behind = .loneBrace then throw (.field .loneBrace)
    if let some f := Quotation.textFault? isRaw text then throw f
    match behind, s with
    | .text, s => readPieces read isRaw fuel nesting s
    | .brace, '\x7b' :: s =>
      let s ← readExpression read nesting s
      let s ←
        match s with
        | ':' :: [] => throw (.field .braceExpected)
        | ':' :: s => readPieces read isRaw fuel (nesting + 1) s
        | s => pure s
      match s with
      | '\x7d' :: s => readPieces read isRaw fuel nesting s
      | _ => throw (.field .braceExpected)
    | _, s => return s

/-- Why a template cannot be read; `read` says why an expression cannot be. -/
def fault? (read : List Char → Option Fault) (q : Quotation) : Option Fault :=
  match readPieces read q.isRaw (q.body.length + 1) 0 q.body with
  | .error f => some f
  | .ok _ => none

end LintDaemon.Literal.Template
