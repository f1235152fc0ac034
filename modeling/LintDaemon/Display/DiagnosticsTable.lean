import LintDaemon.Json.Display
import LintDaemon.Terminal.Table

/-!
# Diagnostics as a table

What a daemon replies is shown as a table with a row for each diagnostic. A reply may be any JSON
value, so it may be something that cannot be listed.

* `diagnosticsTable`: the table for a list of values.
* `Screen.showReply`: a reply as it is written.
* `reportsError`: whether a reply holds a diagnostic of the most severe type.

This is the output for people of section 8.3 of the specification. Names and messages are shown as
marked-up texts, without being escaped, so that what looks like a tag in them is one.
-/

namespace LintDaemon.Display

open LintDaemon.Json LintDaemon.Terminal

/-- Why a reply cannot be listed. -/
inductive ListingError
  /-- It is of a type that has no elements. -/
  | notIterable (typeName : String)
  /-- An element is of a type that has no members. -/
  | noMembers (typeName : String)
  /-- The type of a diagnostic is a container. -/
  | containerAsType (typeName : String)
  /-- A member of a diagnostic is no text. -/
  | notText (typeName : String)
  /-- The tags in a text do not match. -/
  | markup (error : Markup.Error)
  deriving DecidableEq, Repr

/-- The wording of an error. -/
def ListingError.message : ListingError → String
  | .notIterable typeName => "'" ++ typeName ++ "' object is not iterable"
  | .noMembers typeName => "'" ++ typeName ++ "' object has no attribute 'get'"
  | .containerAsType typeName => "unhashable type: '" ++ typeName ++ "'"
  | .notText typeName =>
    "unable to render " ++ typeName ++ "; a string or other renderable object is required"
  | .markup error => error.message

/-- The elements of a reply: those of a list, the names of an object, the characters of a text. -/
def elements : Value → Except ListingError (List Value)
  | .array items => .ok items
  | .object members => .ok (members.map fun (name, _) => .string name)
  | .string s => .ok (s.toList.map fun c => .string (String.ofList [c]))
  | v => .error (.notIterable v.typeName)

/-- A member of an element, or a value in its place if it lacks it. -/
def memberOr (name : String) (default : Value) : Value → Except ListingError Value
  | .object members => .ok ((Value.member? name members).getD default)
  | v => .error (.noMembers v.typeName)

/-- The styles of the types of diagnostics. -/
def typeStyles : List (String × String) :=
  [("ERROR", "bold red"), ("WARNING", "yellow"), ("NOTE", "cyan"), ("OTHER", "dim")]

/-- The style of all other types. -/
def otherStyle : String := "dim"

/-- A type in its style, as markup. -/
def typeCell : Value → Except ListingError Value
  | v@(.array _) | v@(.object _) => .error (.containerAsType v.typeName)
  | v =>
    let style :=
      match v with
      | .string s => (typeStyles.lookup s).getD otherStyle
      | _ => otherStyle
    .ok (.string ("[" ++ style ++ "]" ++ v.asMessage ++ "[/]"))

/-- A place; one that is not known is shown as a dash. -/
def placeCell : Value → Value
  | .string "" | .string "-1" => .string "-"
  | v => v

/-- The text of a cell; the empty value is an empty text. -/
def cellText : Value → Except ListingError (List Char)
  | .null => .ok []
  | .string s => .ok s.toList
  | v => .error (.notText v.typeName)

/-- The row of a diagnostic. -/
def diagnosticRow (d : Value) : Except ListingError (List (List Char)) := do
  let kind ← memberOr "type" (.string "OTHER") d
  let line ← memberOr "line" (.string "") d
  let column ← memberOr "position" (.string "") d
  let kind ← typeCell kind
  let message ← memberOr "message" (.string "") d
  [placeCell line, placeCell column, kind, message].mapM cellText

/-- The columns of a table of diagnostics. -/
def diagnosticColumns : List Column :=
  [⟨"Line".toList, .right, some 6, Style.plain⟩, ⟨"Col".toList, .right, some 5, Style.plain⟩,
   ⟨"Type".toList, .left, some 8, Style.plain⟩, ⟨"Message".toList, .left, none, Style.plain⟩]

/-- The table of diagnostics under a title, which may be empty. -/
def diagnosticsTable (title : String) (ds : List Value) : Except ListingError Table := do
  let rows ← ds.mapM diagnosticRow
  return ⟨if title = "" then none else some title.toList, diagnosticColumns, rows⟩

/-- The markup that says that there are no diagnostics. -/
def noProblems (title : String) : List Char :=
  ("[green]No problems found" ++ (if title = "" then "" else " in " ++ title) ++
    "[/green]").toList

/-- A reply as it is written to a screen. -/
def showReply (screen : Screen) (title : String) (reply : Value) : Except ListingError String :=
  if reply.isVoid then (screen.showMarkup (noProblems title)).mapError .markup
  else do
    let table ← diagnosticsTable title (← elements reply)
    (screen.showTable table).mapError .markup

/-- The type of diagnostics that are errors. -/
def errorType : String := "ERROR"

/-- Whether an element is a diagnostic of an error. -/
def isErrorElement (d : Value) : Except ListingError Bool :=
  (memberOr "type" .null d).map fun
    | .string s => s == errorType
    | _ => false

/-- Whether one of the elements is a diagnostic of an error; those behind the first are not looked
at. -/
def anyError : List Value → Except ListingError Bool
  | [] => .ok false
  | d :: rest => do if ← isErrorElement d then return true else anyError rest

/-- Whether a reply holds a diagnostic of an error. -/
def reportsError (reply : Value) : Except ListingError Bool := do
  anyError (← elements reply)

end LintDaemon.Display
