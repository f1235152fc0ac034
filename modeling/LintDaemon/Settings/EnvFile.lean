import LintDaemon.Text.Blank
import LintDaemon.Text.Line

/-!
# Files of variables

A file of variables has one binding a line: an optional `export`, a name, an equals sign and a
value. Names may stand between single quotes, values between single or double ones; quoted values
may hold line breaks and escapes. A hash sign begins a comment.

* `EnvFile.bindings`: the bindings of a file. A line that is none is passed over.
* `EnvFile.resolve`: the bindings with references to variables replaced.

The files are those that section 8.2 of the specification falls back to. Three rules are easy to get
wrong. Between quotes a backslash takes the next character with it, whatever that is, so that a
quote behind it does not close the value, and two of them in front of the closing quote do not keep
it from closing; a value that is not closed is none. A comment begins behind white space, also where
that stands directly behind the equals sign, so that the value is empty then. One byte order mark at
the start of the file is no part of the first name.
-/

namespace LintDaemon.EnvFile

open LintDaemon.Text

/-- White space inside a line. -/
def isInlineBlank (c : Char) : Bool :=
  isBlank c && c != '\n' && c != '\r'

/-- Characters that end a line. -/
def endsLine (c : Char) : Bool :=
  c == '\n' || c == '\r'

/-- A text without the white space that goes on in its line. -/
def skipInline (s : List Char) : List Char :=
  s.dropWhile isInlineBlank

/-- What follows the rest of a line and its end. -/
def skipLine (s : List Char) : List Char :=
  match s.dropWhile (!endsLine ·) with
  | _ :: rest => rest
  | [] => []

/-- What follows the word that marks a variable for other programs, if it is there with white
space behind it. -/
def skipExport (s : List Char) : List Char :=
  match dropPrefix? "export".toList s with
  | some (c :: rest) => if isInlineBlank c then skipInline rest else s
  | _ => s

/-- Characters of a name that is not quoted. -/
def isNameChar (c : Char) : Bool :=
  c != '=' && c != '#' && !isBlank c

/-- A name at the start of a text: none where a comment begins. A failure leaves the text as it
is. -/
def readName (s : List Char) : Option (Option (List Char) × List Char) :=
  match s with
  | '#' :: _ => some (none, s)
  | '\x27' :: rest =>
    match cut '\x27' rest with
    | (name@(_ :: _), some rest) => some (some name, rest)
    | _ => none
  | _ =>
    match s.takeWhile isNameChar with
    | [] => none
    | name => some (some name, s.dropWhile isNameChar)

/-- The text up to the closing quote, and what follows it. What stands behind a backslash does not
close. -/
def readQuoted (mark : Char) : List Char → Option (List Char × List Char)
  | [] => none
  | '\\' :: c :: rest => (readQuoted mark rest).map fun (text, after) => ('\\' :: c :: text, after)
  | c :: rest =>
    if c = mark then some ([], rest)
    else (readQuoted mark rest).map fun (text, after) => (c :: text, after)

/-- The characters that a backslash may be followed by between single quotes. -/
def singleEscape? (c : Char) : Option Char :=
  if c = '\\' ∨ c = '\x27' then some c else none

/-- The characters that a backslash may be followed by between double quotes, and what they stand
for. -/
def doubleEscape? (c : Char) : Option Char :=
  if c = '\\' ∨ c = '\x27' ∨ c = '\x22' then some c
  else if c = 'a' then some '\x07'
  else if c = 'b' then some '\x08'
  else if c = 'f' then some '\x0c'
  else if c = 'n' then some '\n'
  else if c = 'r' then some '\r'
  else if c = 't' then some '\t'
  else if c = 'v' then some '\x0b'
  else none

/-- A text with its escapes replaced. -/
def unescape (escape? : Char → Option Char) : List Char → List Char
  | [] => []
  | '\\' :: c :: rest =>
    match escape? c with
    | some d => d :: unescape escape? rest
    | none => '\\' :: unescape escape? (c :: rest)
  | c :: rest => c :: unescape escape? rest

/-- Whether white space that goes on to a hash sign begins here. -/
def beginsComment (s : List Char) : Bool :=
  s.head?.any isBlank && (s.dropWhile isBlank).head? == some '#'

/-- A text up to the white space before a comment. -/
def withoutComment : List Char → List Char
  | [] => []
  | c :: rest => if beginsComment (c :: rest) then [] else c :: withoutComment rest

/-- The value behind an equals sign, and what follows it. White space in front of the value is no
part of it, but a comment may begin there. -/
def readValue (s : List Char) : Option (List Char × List Char) :=
  match skipInline s with
  | '\x27' :: rest =>
    (readQuoted '\x27' rest).map fun (text, after) => (unescape singleEscape? text, after)
  | '\x22' :: rest =>
    (readQuoted '\x22' rest).map fun (text, after) => (unescape doubleEscape? text, after)
  | _ => some (trim (withoutComment (s.takeWhile (!endsLine ·))), s.dropWhile (!endsLine ·))

/-- What follows a comment, if one begins here. -/
def skipComment (s : List Char) : List Char :=
  match skipInline s with
  | '#' :: rest => rest.dropWhile (!endsLine ·)
  | _ => s

/-- What follows the end of a line, if nothing but white space comes before it. -/
def skipEnd? (s : List Char) : Option (List Char) :=
  match skipInline s with
  | [] => some []
  | c :: rest => if endsLine c then some rest else none

/-- A name, and its value if it has one. -/
structure Binding where
  /-- The name. -/
  name : List Char
  /-- The value. -/
  value : Option (List Char)
  deriving DecidableEq, Repr

/-- What one line holds, and what follows it: behind a fault all that is left of its line is
passed over. -/
def readBinding (s : List Char) : Option Binding × List Char :=
  let s := skipExport (trimStart s)
  match readName s with
  | none => (none, skipLine s)
  | some (name, rest) =>
    let rest := skipInline rest
    let (valued, value, rest) : Bool × Option (List Char) × List Char :=
      match rest with
      | '=' :: rest =>
        match readValue rest with
        | some (value, rest) => (true, some value, rest)
        | none => (false, none, rest)
      | _ => (true, none, rest)
    if !valued then (none, skipLine rest)
    else
      let rest := skipComment rest
      match skipEnd? rest with
      | some rest => (name.map (⟨·, value⟩), rest)
      | none => (none, skipLine rest)

/-- The bindings of a text, by a bound on its lines. -/
def bindingsUpTo : Nat → List Char → List Binding
  | 0, _ => []
  | fuel + 1, s =>
    if allBlank s then []
    else
      let (binding, rest) := readBinding s
      binding.toList ++ bindingsUpTo fuel rest

/-- The bindings of a file; a byte order mark at its start is no part of it. -/
def bindings (s : List Char) : List Binding :=
  match s with
  | '\ufeff' :: rest => bindingsUpTo s.length rest
  | _ => bindingsUpTo s.length s

/-! ## References to variables -/

/-- The name and the default of a reference, behind its opening, and how long it is. -/
def reference? (s : List Char) : Option (List Char × List Char × Nat) :=
  let name := s.takeWhile fun c => c != '\x7d' && c != ':'
  match s.dropWhile fun c => c != '\x7d' && c != ':' with
  | '\x7d' :: _ => some (name, [], name.length + 1)
  | ':' :: '-' :: rest =>
    match cut '\x7d' rest with
    | (default, some _) => some (name, default, name.length + default.length + 3)
    | _ => none
  | _ => none

/-- A value with its references replaced; `skip` counts the characters of the reference
before. -/
def expandFrom (get? : List Char → Option (List Char)) : Nat → List Char → List Char
  | _, [] => []
  | skip + 1, _ :: rest => expandFrom get? skip rest
  | 0, c :: rest =>
    match c, rest with
    | '$', '\x7b' :: after =>
      match reference? after with
      | some (name, default, length) =>
        (get? name).getD default ++ expandFrom get? (length + 1) rest
      | none => c :: expandFrom get? 0 rest
    | _, _ => c :: expandFrom get? 0 rest

/-- Named values with one set: a name that is there keeps its place. -/
def assign {α : Type} (name : List Char) (value : α) :
    List (List Char × α) → List (List Char × α)
  | [] => [(name, value)]
  | (n, v) :: rest =>
    if n = name then (n, value) :: rest else (n, v) :: assign name value rest

/-- The value of a variable: a binding goes before the environment. A name that is bound without a
value is replaced by nothing, not by the default. -/
def look (environment : List (List Char × List Char))
    (bound : List (List Char × Option (List Char))) (name : List Char) : Option (List Char) :=
  match bound.lookup name with
  | some value => some (value.getD [])
  | none => environment.lookup name

/-- The bindings in order, with references to variables of the environment and to bindings before
them replaced. -/
def resolveAfter (environment : List (List Char × List Char))
    (bound : List (List Char × Option (List Char))) :
    List Binding → List (List Char × Option (List Char))
  | [] => bound
  | b :: rest =>
    let value := b.value.map (expandFrom (look environment bound) 0)
    resolveAfter environment (assign b.name value bound) rest

/-- The variables that bindings set, those without a value included. -/
def resolve (environment : List (List Char × List Char)) (bs : List Binding) :
    List (List Char × Option (List Char)) :=
  resolveAfter environment [] bs

end LintDaemon.EnvFile
