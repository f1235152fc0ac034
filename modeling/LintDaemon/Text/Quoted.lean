import LintDaemon.Text.Printable

/-!
# Quoted text

How a text is shown in a message: between quotes, with everything unprintable escaped.

* `quote`: the quoted form of a text. The quotes are single unless the text holds a single quote
  and no double one.
-/

namespace LintDaemon.Text

/-- A number as at least `width` lower-case hexadecimal digits. -/
def hexDigits (width n : Nat) : List Char :=
  let digits := Nat.toDigits 16 n
  List.replicate (width - digits.length) '0' ++ digits

/-- One character of a quoted text. -/
def quoteChar (mark c : Char) : List Char :=
  if c = mark ∨ c = '\\' then ['\\', c]
  else if c = '\n' then ['\\', 'n']
  else if c = '\r' then ['\\', 'r']
  else if c = '\t' then ['\\', 't']
  else if isPrintable c then [c]
  else if c.toNat < 0x100 then '\\' :: 'x' :: hexDigits 2 c.toNat
  else if c.toNat < 0x10000 then '\\' :: 'u' :: hexDigits 4 c.toNat
  else '\\' :: 'U' :: hexDigits 8 c.toNat

/-- The mark that quotes a text. -/
def quoteMark (s : List Char) : Char :=
  if s.contains '\x27' && !s.contains '\x22' then '\x22' else '\x27'

/-- The quoted form of a text. -/
def quoteChars (s : List Char) : List Char :=
  let mark := quoteMark s
  mark :: s.flatMap (quoteChar mark) ++ [mark]

/-- The quoted form of a string. -/
def quote (s : String) : String :=
  String.ofList (quoteChars s.toList)

end LintDaemon.Text
