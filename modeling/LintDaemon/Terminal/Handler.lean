import LintDaemon.Literal.Reading
import LintDaemon.Literal.Value
import LintDaemon.Text.Blank
import LintDaemon.Text.Word

/-!
# Handlers

A tag may name what handles a click on its text, and the arguments for that: a name and arguments
in brackets, or an expression. The arguments have to be literals.

* `Handler.check`: whether the arguments of a handler can be read.

Scope: a handler is only checked, since nothing can be clicked. How deep an expression may be nested
is not bounded.
-/

namespace LintDaemon.Terminal.Handler

open LintDaemon.Literal LintDaemon.Text

/-- Why the arguments of a handler cannot be read. -/
inductive Error
  /-- They are no expression. -/
  | unreadable (arguments parameters : List Char) (fault : Fault)
  /-- They are an expression that writes no value. -/
  | noValue (parameters : List Char) (fault : ValueFault)
  deriving DecidableEq, Repr

/-- The wording of an error. -/
def Error.message : Error → String
  | unreadable arguments parameters fault =>
    "error parsing " ++ String.ofList (quoteChars arguments) ++ " in " ++
      String.ofList (quoteChars parameters) ++ "; " ++ fault.message
  | noValue parameters fault =>
    "error parsing " ++ String.ofList (quoteChars parameters) ++ "; " ++ fault.message

/-- The arguments among trimmed parameters: what stands in brackets behind a name with points in it,
nothing behind such a name, or else all of it. -/
def arguments (s : List Char) : List Char :=
  match s.dropWhile fun c => isWordChar c || c == '.' with
  | [] => "()".toList
  | c :: rest =>
    if c = '(' ∧ rest.getLast? = some ')' ∧ !rest.contains '\n' then c :: rest else s

/-- White space in front of an expression that is left out. -/
def isMargin (c : Char) : Bool :=
  c == ' ' || c == '\t'

/-- Whether the arguments of a handler can be read. It need not have any. -/
def check (parameters : List Char) : Except Error Unit :=
  if parameters = [] then .ok ()
  else
    let s := arguments (trim parameters)
    match Expression.ofText (s.dropWhile isMargin) with
    | .error fault => .error (.unreadable s parameters fault)
    | .ok e =>
      match e.value with
      | .error fault => .error (.noValue parameters fault)
      | .ok _ => .ok ()

end LintDaemon.Terminal.Handler
