import LintDaemon.Json.Value
import LintDaemon.Number.Numeral

/-!
# Reading JSON

A reader for JSON texts. Besides the standard it knows the names of the numbers that are not
finite, and it bounds the depth of nesting and the digits of a whole number.

* `Json.read`: the value that a text writes, or the first fault and where it is.
* `ReadError.message`: the wording of a fault.

Inside the reader a fault says how the text goes on from it; the place follows from how much of
the text that is.
-/

namespace LintDaemon.Json

/-- What is wrong with a JSON text. -/
inductive Fault
  /-- No value begins here. -/
  | expectingValue
  /-- No quoted name begins here. -/
  | expectingName
  /-- No colon follows a name. -/
  | expectingColon
  /-- Neither a comma nor the end of the container follows a value. -/
  | expectingComma
  /-- Something follows the value. -/
  | extraData
  /-- A text has no closing quote. -/
  | unterminatedString
  /-- A control character stands in a text. -/
  | invalidControl
  /-- A backslash is followed by none of the known letters. -/
  | invalidEscape
  /-- The four hexadecimal digits of a character are not there. -/
  | invalidUnit
  /-- The text begins with a byte order mark. -/
  | byteOrderMark
  deriving DecidableEq, Repr

/-- Values that hold values. -/
inductive Container
  /-- A list. -/
  | array
  /-- Named values. -/
  | object
  deriving DecidableEq, Repr

/-- Why reading stopped. -/
inductive Stop
  /-- A fault, and the text from it on. -/
  | fault (kind : Fault) (rest : List Char)
  /-- A container lies in too many others. -/
  | tooDeep (container : Container)
  /-- A whole number has too many digits. -/
  | tooManyDigits (count : Nat)
  deriving DecidableEq, Repr

/-- White space between the parts of a JSON text. -/
def isSpace (c : Char) : Bool :=
  c == ' ' || c == '\t' || c == '\n' || c == '\r'

/-- A text without leading white space. -/
def skipSpace (s : List Char) : List Char :=
  s.dropWhile isSpace

/-! ## Texts -/

/-- The value of a hexadecimal digit. -/
def hexValue? (c : Char) : Option Nat :=
  if c.isDigit then some (c.toNat - 48)
  else if 'a' ≤ c ∧ c ≤ 'f' then some (c.toNat - 87)
  else if 'A' ≤ c ∧ c ≤ 'F' then some (c.toNat - 55)
  else none

/-- The sixteen-bit unit that four hexadecimal digits write. -/
def unit? (a b c d : Char) : Option Nat := do
  let a ← hexValue? a
  let b ← hexValue? b
  let c ← hexValue? c
  let d ← hexValue? d
  return ((a * 16 + b) * 16 + c) * 16 + d

/-- The character that a letter after a backslash stands for. -/
def escaped? (c : Char) : Option Char :=
  if c = '\x22' ∨ c = '\\' ∨ c = '/' then some c
  else if c = 'b' then some '\x08'
  else if c = 'f' then some '\x0c'
  else if c = 'n' then some '\n'
  else if c = 'r' then some '\r'
  else if c = 't' then some '\t'
  else none

/-- Units that begin a pair. -/
def isHighUnit (n : Nat) : Bool :=
  0xD800 ≤ n && n < 0xDC00

/-- Units that end a pair. -/
def isLowUnit (n : Nat) : Bool :=
  0xDC00 ≤ n && n < 0xE000

/-- The character of one unit; half of a pair is shown as a replacement character. -/
def unitChar (n : Nat) : Char :=
  if isHighUnit n || isLowUnit n then '\ufffd' else Char.ofNat n

/-- The character of a pair of units. -/
def pairChar (high low : Nat) : Char :=
  Char.ofNat (0x10000 + (high - 0xD800) * 0x400 + (low - 0xDC00))

/-- A character before the text that a reader found. -/
def push (c : Char) : Except Stop (List Char × List Char) → Except Stop (List Char × List Char)
  | .ok (s, rest) => .ok (c :: s, rest)
  | .error e => .error e

/-- The text up to the closing quote, and what follows it; `start` is the text from the opening
quote on. -/
def readString (start : List Char) : List Char → Except Stop (List Char × List Char)
  | [] => .error (.fault .unterminatedString start)
  | '\\' :: [] => .error (.fault .unterminatedString start)
  | '\\' :: 'u' :: a :: b :: c :: d :: rest =>
    match unit? a b c d, rest with
    | none, _ | _, [] => .error (.fault .invalidUnit ('u' :: a :: b :: c :: d :: rest))
    | some high, '\\' :: 'u' :: a :: b :: c :: d :: next :: rest =>
      match unit? a b c d with
      | some low =>
        if isHighUnit high && isLowUnit low then
          push (pairChar high low) (readString start (next :: rest))
        else
          push (unitChar high)
            (readString start ('\\' :: 'u' :: a :: b :: c :: d :: next :: rest))
      | none =>
        push (unitChar high) (readString start ('\\' :: 'u' :: a :: b :: c :: d :: next :: rest))
    | some unit, rest => push (unitChar unit) (readString start rest)
  | '\\' :: c :: rest =>
    if c = 'u' then .error (.fault .invalidUnit (c :: rest))
    else
      match escaped? c with
      | some d => push d (readString start rest)
      | none => .error (.fault .invalidEscape ('\\' :: c :: rest))
  | c :: rest =>
    if c = '\x22' then .ok ([], rest)
    else if c.toNat < 0x20 then .error (.fault .invalidControl (c :: rest))
    else push c (readString start rest)

/-! ## Numbers -/

/-- The digits at the start of a text, and what follows them. -/
def spanDigits (s : List Char) : List Char × List Char :=
  (s.takeWhile Char.isDigit, s.dropWhile Char.isDigit)

/-- The digits before the point: a zero, or digits of which the first is none. -/
def wholePart? : List Char → Option (List Char × List Char)
  | '0' :: rest => some (['0'], rest)
  | s =>
    match spanDigits s with
    | ([], _) => none
    | part => some part

/-- The digits behind a point, if a point and a digit are there. -/
def fractionPart (s : List Char) : List Char × List Char :=
  match s with
  | '.' :: rest =>
    match spanDigits rest with
    | ([], _) => ([], s)
    | part => part
  | _ => ([], s)

/-- The exponent behind its mark, if a mark and a digit are there. -/
def exponentPart (s : List Char) : Option Int × List Char :=
  match s with
  | c :: rest =>
    if c = 'e' ∨ c = 'E' then
      let (negative, digits) := Numeral.sign rest
      match spanDigits digits with
      | ([], _) => (none, s)
      | (ds, rest) =>
        (some (if negative then -(Numeral.value ds : Int) else Numeral.value ds), rest)
    else (none, s)
  | [] => (none, s)

/-- The number at the start of a text that has passed its minus sign, if one was there. -/
def readNumber (start : List Char) (negative : Bool) (s : List Char) :
    Except Stop (Value × List Char) :=
  match wholePart? s with
  | none => .error (.fault .expectingValue start)
  | some (whole, rest) =>
    let (fraction, rest) := fractionPart rest
    let (exponent, rest) := exponentPart rest
    if fraction.isEmpty && exponent.isNone then
      if whole.length ≤ Numeral.maxDigits then
        let n : Int := Numeral.value whole
        .ok (.int (if negative then -n else n), rest)
      else .error (.tooManyDigits whole.length)
    else
      let digits := Numeral.value (whole ++ fraction)
      .ok (.float (Binary64.ofDecimal negative digits (exponent.getD 0 - fraction.length)), rest)

/-! ## Values -/

/-- The values written as a name. -/
def constants : List (List Char × Value) :=
  [("null".toList, .null), ("true".toList, .bool true), ("false".toList, .bool false),
   ("NaN".toList, .float .nan), ("Infinity".toList, .float (.infinite false)),
   ("-Infinity".toList, .float (.infinite true))]

/-- The constant at the start of a text. -/
def constant? (s : List Char) : Option (Value × List Char) :=
  constants.findSome? fun (name, v) =>
    if name.isPrefixOf s then some (v, s.drop name.length) else none

mutual
/-- The value at the start of a text, inside at most `depth` further containers. The fuel
bounds the number of steps. -/
def readValue : Nat → Nat → List Char → Except Stop (Value × List Char)
  | 0, _, s => .error (.fault .expectingValue s)
  | fuel + 1, depth, s =>
    match s with
    | '\x22' :: rest => do
      let (text, rest) ← readString s rest
      return (.string (String.ofList text), rest)
    | '[' :: rest =>
      match depth with
      | 0 => .error (.tooDeep .array)
      | depth + 1 =>
        match skipSpace rest with
        | ']' :: rest => .ok (.array [], rest)
        | rest => do
          let (items, rest) ← readItems fuel depth rest
          return (.array items, rest)
    | '\x7b' :: rest =>
      match depth with
      | 0 => .error (.tooDeep .object)
      | depth + 1 =>
        match skipSpace rest with
        | '\x7d' :: rest => .ok (.object [], rest)
        | rest => do
          let (members, rest) ← readMembers fuel depth [] rest
          return (.object members, rest)
    | _ =>
      match constant? s with
      | some found => .ok found
      | none =>
        match s with
        | '-' :: rest => readNumber s true rest
        | _ => readNumber s false s

/-- The values of a list up to its closing bracket. -/
def readItems : Nat → Nat → List Char → Except Stop (List Value × List Char)
  | 0, _, s => .error (.fault .expectingValue s)
  | fuel + 1, depth, s => do
    let (v, rest) ← readValue fuel depth s
    match skipSpace rest with
    | ']' :: rest => return ([v], rest)
    | ',' :: rest =>
      let (vs, rest) ← readItems fuel depth (skipSpace rest)
      return (v :: vs, rest)
    | rest => .error (.fault .expectingComma rest)

/-- The members of an object up to its closing brace, after those found so far. -/
def readMembers : Nat → Nat → List (String × Value) → List Char →
    Except Stop (List (String × Value) × List Char)
  | 0, _, _, s => .error (.fault .expectingName s)
  | fuel + 1, depth, found, s =>
    match s with
    | '\x22' :: rest => do
      let (name, rest) ← readString s rest
      match skipSpace rest with
      | ':' :: rest =>
        let (v, rest) ← readValue fuel depth (skipSpace rest)
        let found := Value.setMember (String.ofList name) v found
        match skipSpace rest with
        | '\x7d' :: rest => return (found, rest)
        | ',' :: rest => readMembers fuel depth found (skipSpace rest)
        | rest => .error (.fault .expectingComma rest)
      | rest => .error (.fault .expectingColon rest)
    | _ => .error (.fault .expectingName s)
end

/-- How deep containers may lie in each other. -/
def maxDepth : Nat := 985

/-- The only value of a text. -/
def readAll (s : List Char) : Except Stop Value :=
  match s with
  | '\ufeff' :: _ => .error (.fault .byteOrderMark s)
  | _ => do
    let (v, rest) ← readValue (2 * s.length + 2) maxDepth (skipSpace s)
    match skipSpace rest with
    | [] => return v
    | rest => .error (.fault .extraData rest)

/-- Why a text is no JSON. -/
inductive ReadError
  /-- A fault, and its line, column and offset in characters. -/
  | malformed (kind : Fault) (line column offset : Nat)
  /-- A container lies in too many others. -/
  | tooDeep (container : Container)
  /-- A whole number has too many digits. -/
  | tooManyDigits (count : Nat)
  deriving DecidableEq, Repr

/-- A stop as an error, by how much of the text was left. -/
def Stop.toError (s : List Char) : Stop → ReadError
  | .fault kind rest =>
    let offset := s.length - rest.length
    let before := s.take offset
    let column := (before.reverse.takeWhile (· != '\n')).length + 1
    .malformed kind (before.count '\n' + 1) column offset
  | .tooDeep container => .tooDeep container
  | .tooManyDigits count => .tooManyDigits count

/-- The value that a text writes. -/
def read (s : List Char) : Except ReadError Value :=
  (readAll s).mapError (Stop.toError s)

/-- The wording of a fault. -/
def Fault.message : Fault → String
  | .expectingValue => "Expecting value"
  | .expectingName => "Expecting property name enclosed in double quotes"
  | .expectingColon => "Expecting ':' delimiter"
  | .expectingComma => "Expecting ',' delimiter"
  | .extraData => "Extra data"
  | .unterminatedString => "Unterminated string starting at"
  | .invalidControl => "Invalid control character at"
  | .invalidEscape => "Invalid \\escape"
  | .invalidUnit => "Invalid \\uXXXX escape"
  | .byteOrderMark => "Unexpected UTF-8 BOM (decode using utf-8-sig)"

/-- The wording of an error. -/
def ReadError.message : ReadError → String
  | .malformed kind line column offset =>
    kind.message ++ ": line " ++ toString line ++ " column " ++ toString column ++ " (char " ++
      toString offset ++ ")"
  | .tooDeep .array =>
    "maximum recursion depth exceeded while decoding a JSON array from a unicode string"
  | .tooDeep .object =>
    "maximum recursion depth exceeded while decoding a JSON object from a unicode string"
  | .tooManyDigits count => (Numeral.IntError.tooLong count).message

end LintDaemon.Json
