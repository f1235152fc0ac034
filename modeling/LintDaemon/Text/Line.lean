/-!
# Lines and fields

Three ways to cut a text.

* `lines`: the lines of a text, broken at every line boundary of the Unicode standard and at the
  ASCII file, group and record separators; the breaks are dropped.
* `normalizeNewlines`: a carriage return, alone or before a line feed, becomes one line feed.
* `fields`: the pieces of a text between the occurrences of a separator.
* `linesWithEnds`: the pieces of a text, each up to and with its line feed.
-/

namespace LintDaemon.Text

/-- Characters that end a line. -/
def isLineBreak (c : Char) : Bool :=
  let n := c.toNat
  (10 ≤ n && n ≤ 13) || (28 ≤ n && n ≤ 30) || n == 0x85 || n == 0x2028 || n == 0x2029

/-- A text whose first line begins with `c`. -/
def consLine (c : Char) : List (List Char) → List (List Char)
  | [] => [[c]]
  | line :: rest => (c :: line) :: rest

/-- The lines of a text without their ends; a break at the end of the text starts no further
line. -/
def lines : List Char → List (List Char)
  | [] => []
  | '\r' :: '\n' :: rest => [] :: lines rest
  | c :: rest => if isLineBreak c then [] :: lines rest else consLine c (lines rest)

/-- Carriage returns, alone or before a line feed, become line feeds. -/
def normalizeNewlines : List Char → List Char
  | [] => []
  | '\r' :: '\n' :: rest => '\n' :: normalizeNewlines rest
  | '\r' :: rest => '\n' :: normalizeNewlines rest
  | c :: rest => c :: normalizeNewlines rest

/-- A text without a carriage return at its end. -/
def withoutLastReturn (text : List Char) : List Char :=
  match text.getLast? with
  | some '\r' => text.dropLast
  | _ => text

/-- The pieces of a text between the occurrences of `sep`; there is always at least one. -/
def fields (sep : Char) : List Char → List (List Char)
  | [] => [[]]
  | c :: rest => if c = sep then [] :: fields sep rest else consLine c (fields sep rest)

/-- The pieces of a string between the occurrences of `sep`. -/
def fieldsOf (sep : Char) (s : String) : List String :=
  (fields sep s.toList).map String.ofList

/-- The first piece before `sep`, and what follows `sep` if it occurs. -/
def cut (sep : Char) : List Char → List Char × Option (List Char)
  | [] => ([], none)
  | c :: rest =>
    if c = sep then ([], some rest)
    else
      let (before, after) := cut sep rest
      (c :: before, after)

/-- The lines of a text, each with the line feed that ends it; the last may lack it. -/
def linesWithEnds : List Char → List (List Char)
  | [] => []
  | '\n' :: rest => ['\n'] :: linesWithEnds rest
  | c :: rest => consLine c (linesWithEnds rest)

/-- Texts joined by a separator. -/
def join (sep : List Char) : List (List Char) → List Char
  | [] => []
  | [s] => s
  | s :: rest => s ++ sep ++ join sep rest

/-- What follows a prefix, if the text begins with it. -/
def dropPrefix? : List Char → List Char → Option (List Char)
  | [], s => some s
  | _ :: _, [] => none
  | p :: ps, c :: cs => if p = c then dropPrefix? ps cs else none

/-- A text without a suffix, if it ends with it. -/
def dropSuffix? (suffix s : List Char) : Option (List Char) :=
  (dropPrefix? suffix.reverse s.reverse).map List.reverse

/-- Whether a pattern occurs in a text. -/
def occurs (pattern : List Char) : List Char → Bool
  | [] => pattern.isEmpty
  | c :: rest => pattern.isPrefixOf (c :: rest) || occurs pattern rest

/-- A text with every occurrence of a non-empty pattern removed, read from the left: after an
occurrence the search goes on behind it. `skip` counts the characters of an occurrence still to
be passed. -/
def eraseFrom (pattern : List Char) : Nat → List Char → List Char
  | _, [] => []
  | skip + 1, _ :: rest => eraseFrom pattern skip rest
  | 0, c :: rest =>
    if pattern.isPrefixOf (c :: rest) then eraseFrom pattern (pattern.length - 1) rest
    else c :: eraseFrom pattern 0 rest

/-- A text with every occurrence of a non-empty pattern removed. -/
def erase (pattern s : List Char) : List Char :=
  eraseFrom pattern 0 s

/-- The lines with their ends, put together, are the text. -/
theorem flatten_linesWithEnds (s : List Char) : (linesWithEnds s).flatten = s := by
  fun_induction linesWithEnds s with
  | case1 => rfl
  | case2 rest ih => simp [ih]
  | case3 c rest _ ih =>
    cases h : linesWithEnds rest with
    | nil => simp_all [consLine]
    | cons l ls => simp_all [consLine]

end LintDaemon.Text
