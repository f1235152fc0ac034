import LintDaemon.Text.Blank
import LintDaemon.Text.LetterCase
import LintDaemon.Text.Line
import LintDaemon.Text.Quoted

/-!
# Settings files

A settings file has sections of options. A section begins with its name in brackets; an option is
a name, an equals sign or a colon, and a value, which goes on in the lines that are indented
deeper. Lines that begin with a hash sign or a semicolon are comments.

* `Ini.readLines`, `Ini.Reading.finish`: the sections of a file.
* `Ini.expand`: a value with its references to other values replaced.
* `Ini.Reading.expandedDefaults`: the expanded options of the section that holds the defaults.

Lines that are none of these are faults of the whole file and are reported together at its end,
while a missing section or a repetition is reported at once.

These are the settings files of section 8.2 of the specification. Only the defaults are used; other
sections are read, and can make a file wrong, but what they hold is not asked for.
-/

namespace LintDaemon.Ini

open LintDaemon.Text

/-- Named options in the order in which they first appeared, each with the lines of its value. -/
abbrev Options := List (List Char × List (List Char))

/-- The name of the section that holds the defaults. It is always there and may come again. -/
def defaultName : List Char := "DEFAULT".toList

/-- A fault of a settings file. -/
inductive Fault
  /-- An option comes before the first section. -/
  | missingSection (line : Nat) (text : List Char)
  /-- A section comes a second time. -/
  | repeatedSection (line : Nat) (name : List Char)
  /-- An option comes a second time. -/
  | repeatedOption (line : Nat) (owner name : List Char)
  /-- Lines that are neither sections nor options nor values. -/
  | strayLines (lines : List (Nat × List Char))
  deriving DecidableEq, Repr

/-! ## Single lines -/

/-- What a line that continues no value is, without the white space around it. -/
inductive Item
  /-- The name of a section. -/
  | heading (name : List Char)
  /-- The name of an option, in lower case, and the first line of its value. -/
  | option (name value : List Char)
  /-- Anything else. -/
  | stray
  deriving DecidableEq, Repr

/-- The text between an opening bracket and the last closing one, if there is any. -/
def heading? : List Char → Option (List Char)
  | '[' :: rest =>
    match rest.reverse.dropWhile (· != ']') with
    | ']' :: c :: inner => some (c :: inner).reverse
    | _ => none
  | _ => none

/-- The texts before and behind the first equals sign or colon. -/
def splitOption? : List Char → Option (List Char × List Char)
  | [] => none
  | c :: rest =>
    if c = '=' ∨ c = ':' then some ([], rest)
    else (splitOption? rest).map fun (name, value) => (c :: name, value)

/-- What a line is, of which the white space around it has been taken. -/
def Item.ofChars (s : List Char) : Item :=
  match heading? s with
  | some name => .heading name
  | none =>
    match splitOption? s with
    | some (name, value) => .option (lower (trimEnd name)) (trim value)
    | none => .stray

/-- Whether a line is a comment. -/
def isComment (s : List Char) : Bool :=
  match trimStart s with
  | c :: _ => c == '#' || c == ';'
  | [] => false

/-- How far a line is indented. -/
def indentOf (s : List Char) : Nat :=
  (s.takeWhile isBlank).length

/-! ## Files -/

/-- What has been read of a file. -/
structure Reading where
  /-- The sections, the one with the defaults first. -/
  sections : List (List Char × Options)
  /-- The section that is being read. -/
  owner : Option (List Char)
  /-- The option whose value may go on. -/
  option : Option (List Char)
  /-- How far the line is indented that began what is being read. -/
  indent : Nat
  /-- The lines that are nothing, with their numbers. -/
  stray : List (Nat × List Char)
  deriving DecidableEq, Repr

/-- What has been read before the first line. -/
def Reading.start : Reading :=
  ⟨[(defaultName, [])], none, none, 0, []⟩

/-- Named things with one of them changed. -/
def update {α : Type} (name : List Char) (f : α → α) : List (List Char × α) → List (List Char × α)
  | [] => []
  | (n, a) :: rest => if n = name then (n, f a) :: rest else (n, a) :: update name f rest

/-- One more line for the value that may go on. -/
def Reading.addLine (r : Reading) (value : List Char) : Reading :=
  match r.owner, r.option with
  | some owner, some option =>
    { r with sections := update owner (update option (· ++ [value])) r.sections }
  | _, _ => r

/-- Whether a line continues the value that is being read. -/
def Reading.continues (r : Reading) (line : List Char) : Bool :=
  r.owner.isSome && r.option.isSome && r.indent < indentOf line

/-- The options of a section. -/
def Reading.optionsOf (r : Reading) (owner : List Char) : Options :=
  (r.sections.lookup owner).getD []

/-- A section entered. -/
def Reading.enter (r : Reading) (number : Nat) (name : List Char) : Except Fault Reading :=
  let entered := { r with owner := some name, option := none }
  if name = defaultName then .ok entered
  else if (r.sections.lookup name).isSome then .error (.repeatedSection number name)
  else .ok { entered with sections := r.sections ++ [(name, [])] }

/-- An option added. One without a name is kept, but its line is stray and its value cannot go
on. -/
def Reading.addOption (r : Reading) (number : Nat) (line owner name value : List Char) :
    Except Fault Reading :=
  if ((r.optionsOf owner).lookup name).isSome then .error (.repeatedOption number owner name)
  else
    .ok { r with
      sections := update owner (· ++ [(name, [value])]) r.sections
      option := if name = [] then none else some name
      stray := if name = [] then r.stray ++ [(number, line)] else r.stray }

/-- One more line read. -/
def Reading.step (r : Reading) (number : Nat) (line : List Char) : Except Fault Reading :=
  if isComment line then .ok r
  else if allBlank line then .ok (r.addLine [])
  else if r.continues line then .ok (r.addLine (trim line))
  else
    let r := { r with indent := indentOf line }
    match Item.ofChars (trim line), r.owner with
    | .heading name, _ => r.enter number name
    | _, none => .error (.missingSection number line)
    | .option name value, some owner => r.addOption number line owner name value
    | .stray, some _ => .ok { r with stray := r.stray ++ [(number, line)] }

/-- Lines read, the first of which has a number. -/
def Reading.steps (r : Reading) : Nat → List (List Char) → Except Fault Reading
  | _, [] => .ok r
  | number, line :: rest => do
    let r ← r.step number line
    r.steps (number + 1) rest

/-- What a file holds, by its lines with their ends; stray lines are still part of it. -/
def readLines (lines : List (List Char)) : Except Fault Reading :=
  Reading.start.steps 1 lines

/-- A file whose lines have all been read, or the stray ones among them. -/
def Reading.finish (r : Reading) : Except Fault Reading :=
  if r.stray = [] then .ok r else .error (.strayLines r.stray)

/-- The value that lines make. -/
def valueOf (lines : List (List Char)) : List Char :=
  trimEnd (join ['\n'] lines)

/-- The options that hold the defaults, each with its value. -/
def Reading.defaults (r : Reading) : List (List Char × List Char) :=
  (r.optionsOf defaultName).map fun (name, lines) => (name, valueOf lines)

/-! ## References between values -/

/-- A part of a value. -/
inductive Part
  /-- A character that stands for itself. -/
  | char (c : Char)
  /-- A reference to another value. -/
  | reference (name : List Char)
  /-- A reference that is not written out, and the text from it on. -/
  | brokenReference (rest : List Char)
  /-- A percent sign that begins nothing, and the text from it on. -/
  | strayPercent (rest : List Char)
  deriving DecidableEq, Repr

/-- The name in front of a closing parenthesis that an `s` follows. -/
def referenceName? (s : List Char) : Option (List Char) :=
  match cut ')' s with
  | (name@(_ :: _), some ('s' :: _)) => some name
  | _ => none

/-- The parts of a value; `skip` counts the characters that belong to the part before. Behind a
fault nothing is looked at. -/
def partsFrom : Nat → List Char → List Part
  | _, [] => []
  | skip + 1, _ :: rest => partsFrom skip rest
  | 0, c :: rest =>
    if c != '%' then .char c :: partsFrom 0 rest
    else
      match rest with
      | '%' :: _ => .char '%' :: partsFrom 1 rest
      | '(' :: after =>
        match referenceName? after with
        | some name => .reference (lower name) :: partsFrom (name.length + 3) rest
        | none => [.brokenReference (c :: rest)]
      | _ => [.strayPercent (c :: rest)]

/-- Why the references of a value cannot be replaced. -/
inductive ReferenceFault
  /-- There is no value of that name. -/
  | missing (name : List Char)
  /-- The references go on for too many steps. -/
  | tooDeep
  /-- A reference is not written out. -/
  | broken (rest : List Char)
  /-- A percent sign begins nothing. -/
  | stray (rest : List Char)
  deriving DecidableEq, Repr

/-- How many steps references may go on. -/
def maxSteps : Nat := 10

/-- A value with its references replaced, in a number of steps. -/
def expandUpTo (values : List (List Char × List Char)) :
    Nat → List Char → Except ReferenceFault (List Char)
  | 0, _ => .error .tooDeep
  | steps + 1, s => do
    let texts ← (partsFrom 0 s).mapM fun
      | .char c => .ok [c]
      | .brokenReference rest => .error (.broken rest)
      | .strayPercent rest => .error (.stray rest)
      | .reference name =>
        match values.lookup name with
        | none => .error (.missing name)
        | some v => if v.contains '%' then expandUpTo values steps v else .ok v
    return texts.flatten

/-- A value with its references replaced. -/
def expand (values : List (List Char × List Char)) (s : List Char) :
    Except ReferenceFault (List Char) :=
  expandUpTo values maxSteps s

/-- Why a file gives no settings. -/
inductive Error
  /-- It is not written as one. -/
  | fault (fault : Fault)
  /-- The references of an option cannot be replaced. -/
  | reference (option value : List Char) (fault : ReferenceFault)
  deriving DecidableEq, Repr

/-- The options that hold the defaults, with their references replaced. -/
def Reading.expandedDefaults (r : Reading) : Except Error (List (List Char × List Char)) :=
  r.defaults.mapM fun (name, value) =>
    match expand r.defaults value with
    | .ok text => .ok (name, text)
    | .error fault => .error (.reference name value fault)

/-! ## Wording -/

/-- The quoted form of a text as a string. -/
def quoted (s : List Char) : String :=
  String.ofList (quoteChars s)

/-- A number that takes at least two places. -/
def twoPlaces (n : Nat) : String :=
  if n < 10 then " " ++ toString n else toString n

/-- The wording of a fault of a file; `file` is how the file is shown. -/
def Fault.message (file : String) : Fault → String
  | .missingSection line text =>
    "File contains no section headers.\nfile: " ++ file ++ ", line: " ++ toString line ++ "\n" ++
      quoted text
  | .repeatedSection line name =>
    "While reading from " ++ file ++ " [line " ++ twoPlaces line ++ "]: section " ++ quoted name ++
      " already exists"
  | .repeatedOption line owner name =>
    "While reading from " ++ file ++ " [line " ++ twoPlaces line ++ "]: option " ++ quoted name ++
      " in section " ++ quoted owner ++ " already exists"
  | .strayLines lines =>
    "Source contains parsing errors: " ++ file ++
      String.join (lines.map fun (line, text) =>
        "\n\t[line " ++ twoPlaces line ++ "]: " ++ quoted text)

/-- The wording of a reference that cannot be replaced. -/
def referenceMessage (option value : List Char) : ReferenceFault → String
  | .missing name =>
    "Bad value substitution: option " ++ quoted option ++ " in section " ++ quoted defaultName ++
      " contains an interpolation key " ++ quoted name ++
      " which is not a valid option name. Raw value: " ++ quoted value
  | .tooDeep =>
    "Recursion limit exceeded in value substitution: option " ++ quoted option ++ " in section " ++
      quoted defaultName ++ " contains an interpolation key which cannot be substituted in " ++
      toString maxSteps ++ " steps. Raw value: " ++ quoted value
  | .broken rest => "bad interpolation variable reference " ++ quoted rest
  | .stray rest => "'%' must be followed by '%' or '(', found: " ++ quoted rest

/-- The wording of an error; `file` is how the file is shown. -/
def Error.message (file : String) : Error → String
  | .fault f => f.message file
  | .reference option value f => referenceMessage option value f

end LintDaemon.Ini
