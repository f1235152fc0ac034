import LintDaemon.Literal.Fault

/-!
# Spelling of numbers and strings

How the numbers and the strings of an expression are written.

* `Number.read`: the number at the start of a text.
* `Quotation.read?`: the string at the start of a text.
* `Quotation.fault?`: why what a string holds cannot be read.
-/

namespace LintDaemon.Literal

open LintDaemon.Text

/-- Characters that may stand in a name. Which of those beyond ASCII really may is decided when
the name is known. -/
def isNameChar (c : Char) : Bool :=
  c.isAlphanum || c == '_' || 128 ≤ c.toNat

/-! ## Numbers -/

/-- A number of an expression, as far as it matters. -/
inductive Number
  /-- A whole number. -/
  | whole (value : Nat)
  /-- A whole number of too many digits. -/
  | excessive (digits : Nat)
  /-- A number with a fraction or an exponent. -/
  | real
  /-- An imaginary number. -/
  | imaginary
  deriving DecidableEq, Repr

namespace Number

/-- Words that may follow a number without a space, if they end there. -/
def wordsBehind : List String := ["and", "else", "for", "or", "not"]

/-- Words that may follow a number without a space, and that may go on as a name. -/
def startsBehind : List String := ["if", "in", "is"]

/-- Whether a number may end in front of a text. A character beyond ASCII is left to be judged as
the start of a name. -/
def mayEnd (rest : List Char) : Bool :=
  !rest.head?.any (fun c => isNameChar c && c.toNat < 128) ||
    startsBehind.any (·.toList.isPrefixOf rest) ||
    wordsBehind.any fun word =>
      word.toList.isPrefixOf rest && !(rest.drop word.length).head?.any isNameChar

/-- A number that ends in front of a text. -/
def endAt (numbering : Numbering) (n : Number) (rest : List Char) :
    Except Fault (Number × List Char) :=
  if mayEnd rest then .ok (n, rest) else .error (.number numbering)

/-- A number in front of a text that may hold the letter of imaginary numbers. -/
def withLetter (n : Number) : List Char → Except Fault (Number × List Char)
  | c :: rest =>
    if c = 'j' ∨ c = 'J' then endAt .imaginary .imaginary rest else endAt .decimal n (c :: rest)
  | [] => .ok (n, [])

/-- A number in front of a text that may hold an exponent. An `e` without digits behind it is
none. -/
def withExponent (n : Number) : List Char → Except Fault (Number × List Char)
  | c :: rest =>
    if c = 'e' ∨ c = 'E' then
      let unsigned := (Numeral.sign rest).2
      match Numeral.digits unsigned with
      | (_ :: _, rest) => withLetter .real rest
      | ([], _) =>
        if unsigned.length < rest.length then .error (.number .decimal)
        else endAt .decimal n (c :: rest)
    else withLetter n (c :: rest)
  | [] => .ok (n, [])

/-- The whole number that decimal digits write. -/
def ofDigits (digits : List Char) : Number :=
  if digits.all (· == '0') then whole 0
  else if Numeral.maxDigits < digits.length then excessive digits.length
  else whole (Numeral.value digits)

/-- A decimal number. -/
def decimal (s : List Char) : Except Fault (Number × List Char) :=
  let (digits, rest) := Numeral.digits s
  match rest with
  | '_' :: _ => .error (.number .decimal)
  | '.' :: rest => withExponent real (Numeral.digits rest).2
  | rest =>
    let isWhole := !rest.head?.any ("eEjJ".toList.contains ·)
    if isWhole && digits.head? = some '0' && digits.any (· != '0') then .error .leadingZeros
    else withExponent (ofDigits digits) rest

/-- Hexadecimal digits. -/
def isHexDigit (c : Char) : Bool :=
  c.isDigit || ('a' ≤ c && c ≤ 'f') || ('A' ≤ c && c ≤ 'F')

/-- The value of a hexadecimal digit. -/
def digitValue (c : Char) : Nat :=
  if c.isDigit then c.toNat - '0'.toNat else c.toLower.toNat - 'a'.toNat + 10

/-- The number that digits write over a base. -/
def valueOver (base : Nat) (digits : List Char) : Nat :=
  digits.foldl (fun n c => base * n + digitValue c) 0

/-- A whole number over another base than ten, behind the letter that says so. -/
def inBase (base : Nat) (numbering : Numbering) (s : List Char) :
    Except Fault (Number × List Char) :=
  let isDigit c := isHexDigit c && digitValue c < base
  let (digits, rest) := Numeral.digitsAfter isDigit s
  let stop := rest.head?
  let behind := if stop = some '_' then rest[1]? else stop
  match behind.filter Char.isDigit with
  | some c => .error (.digit c numbering)
  | none =>
    if digits = [] ∨ stop = some '_' then .error (.number numbering)
    else endAt numbering (whole (valueOver base digits)) rest

/-- The number at the start of a text that begins with a digit, or a point and a digit; and what
follows it. -/
def read : List Char → Except Fault (Number × List Char)
  | '0' :: c :: rest =>
    match c.toLower with
    | 'x' => inBase 16 .hexadecimal rest
    | 'o' => inBase 8 .octal rest
    | 'b' => inBase 2 .binary rest
    | _ => decimal ('0' :: c :: rest)
  | s => decimal s

end Number

/-! ## Strings -/

/-- A string of an expression as it is written. -/
structure Quotation where
  /-- Whether it is a string of bytes. -/
  isBytes : Bool
  /-- Whether a backslash is a character like any other. -/
  isRaw : Bool
  /-- Whether parts of it are to be filled in. -/
  isFormatted : Bool
  /-- The characters between the quotes. -/
  body : List Char
  deriving DecidableEq, Repr

namespace Quotation

/-- The letters that may stand in front of a string, in lower case. -/
def marks : List String := ["", "b", "u", "r", "f", "br", "rb", "fr", "rf"]

/-- What a string up to its closing quote holds, and what follows it; or, if it is not closed, how
many lines end in it. It ends at the first quote, or at the first `more + 1` in a row if its quotes
are long ones; `seen` of them stand in front. -/
def close (quote : Char) (long : Bool) : Nat → List Char → Except Nat (List Char × List Char)
  | _, '\\' :: c :: rest =>
    match close quote long 0 rest with
    | .ok (body, rest) => .ok ('\\' :: c :: body, rest)
    | .error lines => .error (lines + if c = '\n' then 1 else 0)
  | seen, c :: rest =>
    if c = quote then
      if !long || seen = 2 then .ok ([c], rest)
      else (close quote long (seen + 1) rest).map fun (body, rest) => (c :: body, rest)
    else if c = '\n' && !long then .error 0
    else
      match close quote long 0 rest with
      | .ok (body, rest) => .ok (c :: body, rest)
      | .error lines => .error (lines + if c = '\n' then 1 else 0)
  | _, [] => .error 0

/-- The string at the start of a text in a line, and what follows it. -/
def read? (line : Nat) (s : List Char) : Option (Except Fault (Quotation × List Char)) :=
  let letters := s.takeWhile Char.isAlpha
  let mark := letters.map Char.toLower
  match s.drop letters.length with
  | quote :: rest =>
    if (quote = '\x27' ∨ quote = '\x22') ∧ String.ofList mark ∈ marks then
      let long := [quote, quote].isPrefixOf rest
      let width := if long then 3 else 1
      some <|
        match close quote long 0 (rest.drop (width - 1)) with
        | .error lines => .error (.unterminated long (line + lines))
        | .ok (body, rest) =>
          .ok (⟨mark.contains 'b', mark.contains 'r', mark.contains 'f',
            body.take (body.length - width)⟩, rest)
    else none
  | [] => none

/-- How many bytes a character takes where codes behind a backslash are read: those beyond ASCII
are written as such a code themselves. -/
def byteWidth (c : Char) : Nat :=
  if c.toNat < 128 then 1 else 10

/-- How many bytes a backslash takes in front of a character. -/
def backslashWidth (next : Char) : Nat :=
  if next.toNat < 128 then 1 else 6

/-- How many bytes a text takes there. -/
def bytesOf : List Char → Nat
  | '\\' :: c :: rest => backslashWidth c + byteWidth c + bytesOf rest
  | c :: rest => byteWidth c + bytesOf rest
  | [] => 0

/-- Whether a text looks like the name of a character. -/
def isCharacterName (name : List Char) : Bool :=
  name.all fun c => c.isUpper || c.isDigit || c == ' ' || c == '-'

/-- Why a code of `digits` digits behind a backslash and a letter is none of a character. -/
def codeFault? (start : Nat) (letter : Char) (digits : Nat) (s : List Char) : Option Fault :=
  let code := (s.take digits).takeWhile Number.isHexDigit
  let stop := start + 2 + code.length
  if code.length < digits then some (.escape start stop (.truncated letter digits))
  else if 0x10FFFF < Number.valueOver 16 code then some (.escape start stop .tooLarge)
  else none

/-- Why the name behind a backslash and an `N` is none of a character. -/
def nameFault? (start : Nat) : List Char → Option Fault
  | '\x7b' :: rest =>
    let name := rest.takeWhile (· != '\x7d')
    let stop := start + 3 + bytesOf name
    if name = [] ∨ name.length = rest.length then some (.escape start stop .malformedName)
    else if isCharacterName name then none
    else some (.escape start (stop + 1) .unknownName)
  | _ => some (.escape start (start + 2) .malformedName)

/-- Why what follows a backslash stands for no character. -/
def escapeFault? (start : Nat) (c : Char) (rest : List Char) : Option Fault :=
  match c with
  | 'x' => codeFault? start 'x' 2 rest
  | 'u' => codeFault? start 'u' 4 rest
  | 'U' => codeFault? start 'U' 8 rest
  | 'N' => nameFault? start rest
  | _ => none

/-- Why what follows a backslash stands for no byte. -/
def byteFault? (start : Nat) (c : Char) (rest : List Char) : Option Fault :=
  if c = 'x' ∧ ((rest.take 2).takeWhile Number.isHexDigit).length < 2 then some (.byteEscape start)
  else none

/-- The first fault behind a backslash, from an offset in bytes on. -/
def firstFault? (fault? : Nat → Char → List Char → Option Fault) :
    Nat → List Char → Option Fault
  | start, '\\' :: c :: rest =>
    (fault? start c rest).orElse fun () =>
      firstFault? fault? (start + backslashWidth c + byteWidth c) rest
  | start, c :: rest => firstFault? fault? (start + byteWidth c) rest
  | _, [] => none

/-- The first fault behind a backslash in a stretch of characters. -/
def textFault? (isRaw : Bool) (s : List Char) : Option Fault :=
  if isRaw then none else firstFault? escapeFault? 0 s

/-- Why what a string holds cannot be read, if no part of it is to be filled in. -/
def fault? (q : Quotation) : Option Fault :=
  if q.isBytes && q.body.any (128 ≤ ·.toNat) then some .noByte
  else if q.isBytes && !q.isRaw then firstFault? byteFault? 0 q.body
  else textFault? q.isRaw q.body

end Quotation

end LintDaemon.Literal
