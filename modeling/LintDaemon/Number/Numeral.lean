import LintDaemon.Number.Binary64
import LintDaemon.Text.Blank
import LintDaemon.Text.Quoted
import LintDaemon.Text.Word

/-!
# Numerals

Numbers as people write them in settings: white space around them is ignored, the digits may be
those of any script, and a single underscore may stand between two digits.

* `Numeral.int`: a whole number with an optional sign, of at most `Numeral.maxDigits` digits.
* `Numeral.wholeNumber?`: a whole number in ASCII digits, behind whose point only zeros stand.
* `Numeral.float?`: a decimal with an optional sign, point and exponent, or the name of infinity
  or of no number.
-/

namespace LintDaemon.Numeral

open LintDaemon.Text

/-- White space around a numeral; the four information separators are not part of it. -/
def isPadding (c : Char) : Bool :=
  isBlank c && !(28 ≤ c.toNat && c.toNat ≤ 31)

/-- A text without the white space around it. -/
def strip (s : List Char) : List Char :=
  dropEndWhile isPadding (s.dropWhile isPadding)

/-- A digit of any script as an ASCII digit; other characters stay. -/
def asciiDigit (c : Char) : Char :=
  match decimalValue? c with
  | some v => Nat.digitChar v
  | none => c

/-- Digits of a class that follow a digit, each of which may have one underscore before it; and
what follows them. -/
def digitsAfter (isDigit : Char → Bool) : List Char → List Char × List Char
  | '_' :: c :: rest =>
    if isDigit c then let (ds, tail) := digitsAfter isDigit rest; (c :: ds, tail)
    else ([], '_' :: c :: rest)
  | c :: rest =>
    if isDigit c then let (ds, tail) := digitsAfter isDigit rest; (c :: ds, tail)
    else ([], c :: rest)
  | [] => ([], [])

/-- The digits at the start of a text without their underscores, and what follows. -/
def digits : List Char → List Char × List Char
  | c :: rest =>
    if c.isDigit then let (ds, tail) := digitsAfter Char.isDigit rest; (c :: ds, tail)
    else ([], c :: rest)
  | [] => ([], [])

/-- The number that ASCII digits write. -/
def value (ds : List Char) : Nat :=
  Nat.ofDigitChars 10 ds 0

/-- An optional sign: whether it is a minus, and what follows it. -/
def sign : List Char → Bool × List Char
  | '-' :: rest => (true, rest)
  | '+' :: rest => (false, rest)
  | s => (false, s)

/-- The most digits that a whole number may have. -/
def maxDigits : Nat := 4300

/-- Why a text is no whole number. -/
inductive IntError
  /-- The text is not written as one. -/
  | invalid (text : List Char)
  /-- It has too many digits, this many. -/
  | tooLong (digits : Nat)
  deriving DecidableEq, Repr

/-- How much of a text that is no number is shown. -/
def shownLength : Nat := 200

/-- The wording of an error. -/
def IntError.message : IntError → String
  | .invalid text =>
    "invalid literal for int() with base 10: " ++
      String.ofList ((quoteChars text).take shownLength)
  | .tooLong digits =>
    "Exceeds the limit (" ++ toString maxDigits ++
      " digits) for integer string conversion: value has " ++ toString digits ++
      " digits; use sys.set_int_max_str_digits() to increase the limit"

/-- The whole number that a text writes. -/
def int (s : List Char) : Except IntError Int :=
  let (negative, rest) := sign ((strip s).map asciiDigit)
  match digits rest with
  | (ds@(_ :: _), []) =>
    if ds.length ≤ maxDigits then .ok (if negative then -(value ds : Int) else value ds)
    else .error (.tooLong ds.length)
  | _ => .error (.invalid s)

/-- The whole number that a text writes in ASCII digits: zeros may follow it behind a point, and
zeros in front of it do not count for its length. -/
def wholeNumber? (s : List Char) : Option Int :=
  let (negative, rest) := sign (strip s)
  let (ds, rest) := digits rest
  let isWhole :=
    match rest with
    | [] => true
    | '.' :: zeros => !zeros.isEmpty && zeros.all (· == '0')
    | _ => false
  let significant := ds.dropWhile (· == '0')
  if ds.isEmpty || !isWhole || maxDigits < significant.length then none
  else some (if negative then -(value significant : Int) else value significant)

/-- The exponent part at the end of a decimal. -/
def exponent? : List Char → Option Int
  | [] => some 0
  | c :: rest =>
    if c = 'e' ∨ c = 'E' then
      let (negative, rest) := sign rest
      match digits rest with
      | (ds@(_ :: _), []) => some (if negative then -(value ds : Int) else value ds)
      | _ => none
    else none

/-- The decimal that a text without sign writes. -/
def decimal? (negative : Bool) (s : List Char) : Option Binary64 :=
  let (whole, rest) := digits s
  let (fraction, rest) :=
    match rest with
    | '.' :: rest => digits rest
    | rest => ([], rest)
  if whole.isEmpty && fraction.isEmpty then none
  else do
    let e ← exponent? rest
    return Binary64.ofDecimal negative (value (whole ++ fraction)) (e - fraction.length)

/-- The floating-point number that a text writes. -/
def float? (s : String) : Option Binary64 :=
  let (negative, rest) := sign ((strip s.toList).map asciiDigit)
  match String.ofList (rest.map Char.toLower) with
  | "inf" | "infinity" => some (.infinite negative)
  | "nan" => some .nan
  | _ => decimal? negative rest

end LintDaemon.Numeral
