import LintDaemon.Number.Numeral
import LintDaemon.Text.Quoted

/-!
# Faults of an expression

Why a text is no expression: its characters make no tokens, a number or a string in it is written
wrongly, or its tokens stand in an order that the grammar does not know.

* `Fault`: the causes.
* `Fault.message`: their wording.
-/

namespace LintDaemon.Literal

open LintDaemon.Text

/-- How a number is written. -/
inductive Numbering
  | decimal
  | hexadecimal
  | octal
  | binary
  | imaginary
  deriving DecidableEq, Repr

/-- What a number that is written in some way is called. -/
def Numbering.name : Numbering → String
  | decimal => "decimal"
  | hexadecimal => "hexadecimal"
  | octal => "octal"
  | binary => "binary"
  | imaginary => "imaginary"

/-- Why what follows a backslash in a string stands for no character. -/
inductive EscapeFault
  /-- A code after this letter has too few digits; it needs this many. -/
  | truncated (letter : Char) (digits : Nat)
  /-- A code is larger than that of any character. -/
  | tooLarge
  /-- A name is not in braces. -/
  | malformedName
  /-- A name is none of a character. -/
  | unknownName
  deriving DecidableEq, Repr

/-- The wording of a fault behind a backslash. -/
def EscapeFault.message : EscapeFault → String
  | truncated letter digits =>
    "truncated \\" ++ String.ofList (letter :: List.replicate digits 'X') ++ " escape"
  | tooLarge => "illegal Unicode character"
  | malformedName => "malformed \\N character escape"
  | unknownName => "unknown Unicode character name"

/-- Why a field of a template, a part of a string that is to be filled in, cannot be read. -/
inductive FieldFault
  /-- It holds nothing. -/
  | empty
  /-- It holds nothing in front of a sign that says how it is shown. -/
  | emptyBefore (sign : Char)
  /-- It is not closed where it has to be. -/
  | braceExpected
  /-- A closing brace stands alone. -/
  | loneBrace
  /-- It holds a backslash. -/
  | backslash
  /-- It holds a comment. -/
  | comment
  /-- A string in it is not closed. -/
  | unterminated
  /-- A bracket in it stands alone. -/
  | unmatched (bracket : Char)
  /-- A closing bracket in it belongs to another opening one. -/
  | mismatched (closing opening : Char)
  /-- There are too many brackets in it. -/
  | tooManyBrackets
  /-- It lies in too many others. -/
  | tooDeep
  /-- The letter that says how it is shown is none. -/
  | conversion
  deriving DecidableEq, Repr

/-- What templates are called. -/
def templateName : String := "f-string"

/-- The wording of a fault in a field. -/
def FieldFault.message : FieldFault → String
  | empty => templateName ++ ": empty expression not allowed"
  | emptyBefore sign =>
    templateName ++ ": expression required before '" ++ sign.toString ++ "'"
  | braceExpected => templateName ++ ": expecting '\x7d'"
  | loneBrace => templateName ++ ": single '\x7d' is not allowed"
  | backslash => templateName ++ " expression part cannot include a backslash"
  | comment => templateName ++ " expression part cannot include '#'"
  | unterminated => templateName ++ ": unterminated string"
  | unmatched bracket => templateName ++ ": unmatched '" ++ bracket.toString ++ "'"
  | mismatched closing opening =>
    templateName ++ ": closing parenthesis '" ++ closing.toString ++
      "' does not match opening parenthesis '" ++ opening.toString ++ "'"
  | tooManyBrackets => templateName ++ ": too many nested parenthesis"
  | tooDeep => templateName ++ ": expressions nested too deeply"
  | conversion =>
    templateName ++ ": invalid conversion character: expected 's', 'r', or 'a'"

/-- Why tokens stand in no order that the grammar knows. -/
inductive Disorder
  /-- Nothing more can be said. -/
  | plain
  /-- Two expressions stand behind each other. -/
  | missingComma
  /-- A condition has no alternative. -/
  | missingElse
  /-- A statement that needs brackets has none. -/
  | missingBrackets (statement : String)
  /-- A name is set where it may only be compared. -/
  | lonelyEquals
  /-- Something other than a name is set where it may only be compared. -/
  | setInstead (target : String)
  /-- Something other than a name is bound. -/
  | boundInstead (target : String)
  /-- Something that is no variable is set or runs through a collection. -/
  | noTarget (target : String)
  /-- Something other than a name is set among the arguments of a call. -/
  | setArgument
  /-- A bare comprehension is not the only argument of a call. -/
  | bareComprehension
  /-- An argument without a name follows one with a name. -/
  | lateArgument
  /-- An argument without a name follows several with names. -/
  | lateAfterNamed
  /-- Several arguments without names follow several with names. -/
  | lateSeveral
  /-- Several items at once stand in a group of one. -/
  | starInGroup
  /-- Several entries at once stand in a group of one. -/
  | doubleStarInGroup
  /-- Several items at once are what a comprehension is made of. -/
  | starInComprehension
  /-- Several entries at once are what a comprehension is made of. -/
  | doubleStarInComprehension
  /-- Two items are what a comprehension is made of. -/
  | bareComprehensionItems
  /-- A key of a dictionary has no colon. -/
  | missingColon
  /-- A key of a dictionary has no value. -/
  | missingValue
  /-- Several items at once are a value of a dictionary. -/
  | starredValue
  /-- A parameter without a default follows one with a default. -/
  | lateParameter
  /-- Parameters of a function stand in brackets. -/
  | bracketedParameters
  /-- Nothing stands in front of a slash among parameters. -/
  | nothingBeforeSlash
  /-- Two slashes stand among parameters. -/
  | secondSlash
  /-- A slash stands behind a star among parameters. -/
  | slashAfterStar
  /-- A star stands right behind a slash among parameters. -/
  | starAfterSlash
  /-- Nothing stands behind a star among parameters. -/
  | nothingAfterStar
  /-- The parameter for further arguments has a default. -/
  | starDefault
  /-- Two stars stand among parameters. -/
  | secondStar
  /-- The parameter for further named arguments has a default. -/
  | doubleStarDefault
  /-- Something stands behind the parameter for further named arguments. -/
  | afterDoubleStar
  /-- A default is missing. -/
  | missingDefault
  deriving DecidableEq, Repr

/-- The wording of a disorder. -/
def Disorder.message : Disorder → String
  | plain => "invalid syntax"
  | missingComma => "invalid syntax. Perhaps you forgot a comma?"
  | missingElse => "expected 'else' after 'if' expression"
  | missingBrackets statement =>
    "Missing parentheses in call to '" ++ statement ++ "'. Did you mean " ++ statement ++ "(...)?"
  | lonelyEquals => "invalid syntax. Maybe you meant '==' or ':=' instead of '='?"
  | setInstead target =>
    "cannot assign to " ++ target ++ " here. Maybe you meant '==' instead of '='?"
  | boundInstead target => "cannot use assignment expressions with " ++ target
  | noTarget target => "cannot assign to " ++ target
  | setArgument => "expression cannot contain assignment, perhaps you meant \"==\"?"
  | bareComprehension => "Generator expression must be parenthesized"
  | lateArgument => "positional argument follows keyword argument"
  | lateAfterNamed => "positional argument follows keyword argument unpacking"
  | lateSeveral => "iterable argument unpacking follows keyword argument unpacking"
  | starInGroup => "cannot use starred expression here"
  | doubleStarInGroup => "cannot use double starred expression here"
  | starInComprehension => "iterable unpacking cannot be used in comprehension"
  | doubleStarInComprehension => "dict unpacking cannot be used in dict comprehension"
  | bareComprehensionItems => "did you forget parentheses around the comprehension target?"
  | missingColon => "':' expected after dictionary key"
  | missingValue => "expression expected after dictionary key and ':'"
  | starredValue => "cannot use a starred expression in a dictionary value"
  | lateParameter => "non-default argument follows default argument"
  | bracketedParameters => "Lambda expression parameters cannot be parenthesized"
  | nothingBeforeSlash => "at least one argument must precede /"
  | secondSlash => "/ may appear only once"
  | slashAfterStar => "/ must be ahead of *"
  | starAfterSlash => "expected comma between / and *"
  | nothingAfterStar => "named arguments must follow bare *"
  | starDefault => "var-positional argument cannot have default value"
  | secondStar => "* argument may appear only once"
  | doubleStarDefault => "var-keyword argument cannot have default value"
  | afterDoubleStar => "arguments cannot follow var-keyword argument"
  | missingDefault => "expected default value expression"

/-- Why a text is no expression. -/
inductive Fault
  /-- It holds the character that ends a text. -/
  | null
  /-- A character means nothing. -/
  | character (c : Char)
  /-- A number is written wrongly. -/
  | number (numbering : Numbering)
  /-- A digit is too large for how its number is written. -/
  | digit (c : Char) (numbering : Numbering)
  /-- A number begins with a zero. -/
  | leadingZeros
  /-- A number has too many digits, this many. -/
  | tooManyDigits (digits : Nat)
  /-- A string is not closed at the end of its line or, if its quotes are long, of the text. -/
  | unterminated (long : Bool) (line : Nat)
  /-- What follows a backslash in a string stands for no character; the stretch is counted in
  bytes. -/
  | escape (start stop : Nat) (fault : EscapeFault)
  /-- What follows a backslash in a string of bytes stands for no byte. -/
  | byteEscape (start : Nat)
  /-- A string of bytes holds a character that is no byte. -/
  | noByte
  /-- A string of bytes stands beside one of characters. -/
  | mixedStrings
  /-- A closing bracket has no opening one. -/
  | unmatched (closing : Char)
  /-- A closing bracket belongs to another opening one, perhaps of an earlier line. -/
  | mismatched (closing opening : Char) (line : Option Nat)
  /-- There are too many brackets inside each other. -/
  | tooManyBrackets
  /-- An opening bracket has no closing one. -/
  | neverClosed (opening : Char)
  /-- A backslash is not the last character of its line. -/
  | strayBackslash
  /-- The text ends behind a backslash. -/
  | unexpectedEnd
  /-- A line is indented. -/
  | indented
  /-- The tokens stand in a wrong order. -/
  | disorder (d : Disorder)
  /-- A field of a template cannot be read. -/
  | field (f : FieldFault)
  /-- What a field of a template holds is no expression; a fault of its characters is told as it
  would be elsewhere. -/
  | inField (isOfCharacters : Bool) (fault : Fault)
  deriving DecidableEq, Repr

/-- The code of a character as messages show it. -/
def codePoint (c : Char) : String :=
  "U+" ++ String.ofList ((hexDigits 4 c.toNat).map Char.toUpper)

/-- The wording of a fault. -/
def Fault.message : Fault → String
  | null => "source code string cannot contain null bytes"
  | character c =>
    if isPrintable c then "invalid character '" ++ c.toString ++ "' (" ++ codePoint c ++ ")"
    else "invalid non-printable character " ++ codePoint c
  | number numbering => "invalid " ++ numbering.name ++ " literal"
  | digit c numbering =>
    "invalid digit '" ++ c.toString ++ "' in " ++ numbering.name ++ " literal"
  | leadingZeros =>
    "leading zeros in decimal integer literals are not permitted; " ++
      "use an 0o prefix for octal integers"
  | tooManyDigits digits =>
    (Numeral.IntError.tooLong digits).message ++
      " - Consider hexadecimal for huge integer literals to avoid decimal conversion limits."
  | unterminated long line =>
    (if long then "unterminated triple-quoted string" else "unterminated string") ++
      " literal (detected at line " ++ toString line ++ ")"
  | escape start stop fault =>
    "(unicode error) 'unicodeescape' codec can't decode bytes in position " ++ toString start ++
      "-" ++ toString (stop - 1) ++ ": " ++ fault.message
  | byteEscape start => "(value error) invalid \\x escape at position " ++ toString start
  | noByte => "bytes can only contain ASCII literal characters"
  | mixedStrings => "cannot mix bytes and nonbytes literals"
  | unmatched closing => "unmatched '" ++ closing.toString ++ "'"
  | mismatched closing opening line =>
    "closing parenthesis '" ++ closing.toString ++ "' does not match opening parenthesis '" ++
      opening.toString ++ "'" ++
      match line with
      | none => ""
      | some line => " on line " ++ toString line
  | tooManyBrackets => "too many nested parentheses"
  | neverClosed opening => "'" ++ opening.toString ++ "' was never closed"
  | strayBackslash => "unexpected character after line continuation character"
  | unexpectedEnd => "unexpected EOF while parsing"
  | indented => "unexpected indent"
  | disorder d => d.message
  | field f => f.message
  | inField isOfCharacters fault =>
    if isOfCharacters then fault.message else templateName ++ ": " ++ fault.message

end LintDaemon.Literal
