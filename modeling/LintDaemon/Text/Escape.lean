/-!
# Escape sequences

Sequences of characters that tell a terminal what to do.

* `withoutEscapes`: a text without them.

A sequence is the escape character, a square bracket, digits, semicolons and question marks, and a
letter; this is what is taken out of lines that are said to an output that is no terminal. Other
sequences stay.
-/

namespace LintDaemon.Text

/-- The characters between the bracket and the letter of an escape sequence. -/
def isEscapeArgument (c : Char) : Bool :=
  c.isDigit || c == ';' || c == '?'

/-- How long the escape sequence is with which a text begins, if it begins with one. -/
def escapeLength? : List Char → Option Nat
  | '\x1b' :: '[' :: rest =>
    let arguments := rest.takeWhile isEscapeArgument
    match rest.drop arguments.length with
    | c :: _ => if c.isAlpha then some (arguments.length + 3) else none
    | [] => none
  | _ => none

/-- A text without escape sequences; `skip` counts the characters of one still to be passed. -/
def withoutEscapesFrom : Nat → List Char → List Char
  | _, [] => []
  | skip + 1, _ :: rest => withoutEscapesFrom skip rest
  | 0, c :: rest =>
    match escapeLength? (c :: rest) with
    | some n => withoutEscapesFrom (n - 1) rest
    | none => c :: withoutEscapesFrom 0 rest

/-- A text without escape sequences. -/
def withoutEscapes (s : String) : String :=
  String.ofList (withoutEscapesFrom 0 s.toList)

end LintDaemon.Text
