import LintDaemon.Json.Value
import LintDaemon.Text.Quoted

/-!
# Writing JSON

The compact form of a value: no white space between the parts, and ASCII characters only, so that
the text never spans more than one line.

* `Json.writeString`: a text between double quotes, everything but printable ASCII escaped.
* `Json.write`: a value.
-/

namespace LintDaemon.Json

/-- The escape of one sixteen-bit unit. -/
def unitEscape (n : Nat) : List Char :=
  '\\' :: 'u' :: Text.hexDigits 4 n

/-- A character inside a written text. Characters above FFFF are written as two units. -/
def escapeChar (c : Char) : List Char :=
  if c = '\x22' then ['\\', '\x22']
  else if c = '\\' then ['\\', '\\']
  else if c = '\n' then ['\\', 'n']
  else if c = '\r' then ['\\', 'r']
  else if c = '\t' then ['\\', 't']
  else if c = '\x08' then ['\\', 'b']
  else if c = '\x0c' then ['\\', 'f']
  else if ' ' ≤ c ∧ c ≤ '~' then [c]
  else if c.toNat < 0x10000 then unitEscape c.toNat
  else
    let n := c.toNat - 0x10000
    unitEscape (0xD800 + n / 0x400) ++ unitEscape (0xDC00 + n % 0x400)

/-- A text as JSON. -/
def writeString (s : List Char) : List Char :=
  '\x22' :: (s.flatMap escapeChar ++ ['\x22'])

/-- A whole number as JSON. -/
def writeInt : Int → List Char
  | .ofNat n => Nat.toDigits 10 n
  | .negSucc n => '-' :: Nat.toDigits 10 (n + 1)

/-- A floating-point number as JSON, with names for those that are not finite. -/
def writeFloat : Binary64 → List Char
  | .nan => "NaN".toList
  | .infinite negative => (if negative then "-Infinity" else "Infinity").toList
  | x => x.toText.toList

mutual
/-- A value as JSON. -/
def write : Value → List Char
  | .null => "null".toList
  | .bool b => (if b then "true" else "false").toList
  | .int n => writeInt n
  | .float x => writeFloat x
  | .string s => writeString s.toList
  | .array items => '[' :: (writeItems items ++ [']'])
  | .object members => '\x7b' :: (writeMembers members ++ ['\x7d'])

/-- Values with commas between them. -/
def writeItems : List Value → List Char
  | [] => []
  | [v] => write v
  | v :: rest => write v ++ ',' :: writeItems rest

/-- Members with commas between them. -/
def writeMembers : List (String × Value) → List Char
  | [] => []
  | [m] => writeMember m
  | m :: rest => writeMember m ++ ',' :: writeMembers rest

/-- A name, a colon and a value. -/
def writeMember : String × Value → List Char
  | (name, v) => writeString name.toList ++ ':' :: write v
end

/-- A value as a JSON string. -/
def render (v : Value) : String :=
  String.ofList (write v)

end LintDaemon.Json
