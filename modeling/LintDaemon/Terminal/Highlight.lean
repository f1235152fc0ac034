import LintDaemon.Terminal.StyledText
import LintDaemon.Text.Pattern

/-!
# Highlighting

Numbers, names, paths and the like stand out from the text around them.

* `highlights`: the styles laid over what stands out.

The patterns are those of the library that draws the tables, for texts that are shown by themselves.
What stands in the cells of a table is not highlighted.
-/

namespace LintDaemon.Terminal

open LintDaemon.Text LintDaemon.Text.Pattern

namespace Highlight

/-- Decimal digits in ASCII. -/
def digit : Pattern := char Char.isDigit

/-- Hexadecimal digits in ASCII. -/
def hexDigit : Pattern :=
  char fun c => c.isDigit || ('a' ≤ c && c ≤ 'f') || ('A' ≤ c && c ≤ 'F')

/-- Characters of words. -/
def wordChar : Pattern := char isWordChar

/-- Characters of words, or out of a text. -/
def wordCharOr (s : String) : Pattern :=
  char fun c => isWordChar c || s.toList.contains c

/-- Any character but a line feed. -/
def inLine : Pattern := char (· != '\n')

/-- What stands between angle brackets. -/
def tag : Pattern :=
  sequence [named "tag_start" (literal "<"), named "tag_name" (many (wordCharOr "-.:|")),
    named "tag_contents" (many (char fun _ => true)), named "tag_end" (literal ">")]

/-- A name and the value behind an equals sign. -/
def assignment : Pattern :=
  sequence [named "attrib_name" (between 1 50 wordChar), literal "=",
    optional (named "attrib_value"
      (sequence [optional (literal "\""), some1 wordChar, optional (literal "\"")]))]

/-- A bracket. -/
def bracket : Pattern := named "brace" (oneOf "][\x7b\x7d()")

/-- An address of four numbers. -/
def dottedAddress : Pattern :=
  let part := between 1 3 digit
  named "ipv4" (sequence [part, literal ".", part, literal ".", part, literal ".", part])

/-- An address of groups between colons. -/
def colonAddress : Pattern :=
  let part := between 1 4 hexDigit
  named "ipv6"
    (seq (between 1 7 (sequence [part, literal ":", optional (literal ":")])) part)

/-- Pairs of hexadecimal digits with a mark between them: as many as said, and one more. -/
def pairs (n : Nat) (mark : String) : Pattern :=
  let part := between 1 2 hexDigit
  seq (exactly n (seq part (literal mark))) part

/-- Groups of four hexadecimal digits with points between them: as many as said, and one more. -/
def quads (n : Nat) : Pattern :=
  let part := exactly 4 hexDigit
  seq (exactly n (seq part (literal "."))) part

/-- An address of a device, of eight or of six bytes. -/
def deviceAddress (name : String) (bytes words : Nat) : Pattern :=
  named name (anyOf (pairs bytes "-") [pairs bytes ":", quads words])

/-- Hexadecimal digits in five groups that identify something. -/
def identifier : Pattern :=
  let group (n : Nat) := exactly n hexDigit
  named "uuid" (sequence [group 8, literal "-", group 4, literal "-", group 4, literal "-",
    group 4, literal "-", group 12])

/-- A name in front of a bracket. -/
def call : Pattern :=
  seq (named "call" (times true 0 none (wordCharOr "."))) (literal "(")

/-- A word that stands alone. -/
def loneWord (name word : String) : Pattern :=
  sequence [wordEdge true, named name (literal word), wordEdge true]

/-- Words for truth values and for nothing. -/
def constant : Pattern :=
  anyOf (loneWord "bool_true" "True") [loneWord "bool_false" "False", loneWord "none" "None"]

/-- Three points. -/
def ellipsis : Pattern := named "ellipsis" (literal "...")

/-- An exponent; the fewest digits are taken if it is a reluctant one. -/
def exponent (reluctant : Bool) : Pattern :=
  optional (sequence [literal "e", optional (oneOf "-+"),
    times reluctant 1 none (char isDecimalDigit)])

/-- Digits that may have a point among them. -/
def digitsWithPoint : Pattern :=
  sequence [some1 digit, optional (literal "."), many digit]

/-- A complex number. -/
def complexNumber : Pattern :=
  named "number_complex" (sequence [notAfter isWordChar, optional (literal "-"), digitsWithPoint,
    exponent true, optional (sequence [oneOf "-+", digitsWithPoint, exponent false]),
    literal "j"])

/-- A number. -/
def number : Pattern :=
  named "number" (anyOf
    (sequence [notAfter isWordChar, optional (literal "-"), digitsWithPoint, exponent true,
      wordEdge true])
    [seq (literal "0x") (many hexDigit)])

/-- A path and the name behind it. -/
def path : Pattern :=
  let part := wordCharOr "-._+"
  seq
    (named "path" (sequence [wordEdge false, many (seq (literal "/") (some1 part)), literal "/"]))
    (optional (named "filename" (many part)))

/-- A text between marks; a mark behind a backslash is no end. -/
def quoted (mark : String) : Pattern :=
  sequence [optional (literal "b"), literal mark, times true 0 none inLine, notAfter (· == '\\'),
    literal mark]

/-- A quoted text. -/
def quotation : Pattern :=
  seq (notAfter fun c => c == '\\' || isWordChar c)
    (named "str" (anyOf (quoted "\'\'\'") [quoted "\'", quoted "\"\"\"", quoted "\""]))

/-- The address of a resource. -/
def resource : Pattern :=
  named "url" (sequence [
    anyOf (literal "file") ([ "https", "http", "ws", "wss"].map literal), literal "://",
    many (char fun c => c.isAlphanum || "-$_+!\x60(),.?/;:&=%#~@".toList.contains c)])

/-- What stands out, in four turns. -/
def turns : List Pattern :=
  [tag, assignment, bracket,
    anyOf dottedAddress [colonAddress, deviceAddress "eui64" 7 3, deviceAddress "eui48" 5 2,
      identifier, call, constant, ellipsis, complexNumber, number, path, quotation, resource]]

/-- What the names of the styles begin with. -/
def family : String := "repr."

end Highlight

/-- The styles laid over what stands out in a text, the lowest one first. Empty stretches are left
out. -/
def highlights (s : List Char) : List Span :=
  Highlight.turns.flatMap fun pattern =>
    (pattern.all s).filterMap fun stretch =>
      if stretch.start < stretch.stop then
        some ⟨stretch.start, stretch.stop, (Highlight.family ++ stretch.name).toList⟩
      else none

end LintDaemon.Terminal
