import LintDaemon.Json.Value
import LintDaemon.Json.Writer
import LintDaemon.Text.Quoted

/-!
# Showing JSON values in messages

A value inside a message is shown in the notation of a scripting language: quoted texts, spaces
behind commas and colons, and `None`, `True` and `False` for the constants.

* `Json.Value.shown`: a value inside another.
* `Json.Value.asMessage`: a value that is a message by itself; a text is shown as it is.
-/

namespace LintDaemon.Json

mutual
/-- A value as it is shown inside another. -/
def Value.shown : Value → List Char
  | .null => "None".toList
  | .bool b => (if b then "True" else "False").toList
  | .int n => writeInt n
  | .float x => x.toText.toList
  | .string s => Text.quoteChars s.toList
  | .array items => '[' :: (shownItems items ++ [']'])
  | .object members => '\x7b' :: (shownMembers members ++ ['\x7d'])

/-- Values with a comma and a space between them. -/
def shownItems : List Value → List Char
  | [] => []
  | [v] => v.shown
  | v :: rest => v.shown ++ ',' :: ' ' :: shownItems rest

/-- Members with a comma and a space between them. -/
def shownMembers : List (String × Value) → List Char
  | [] => []
  | [m] => shownMember m
  | m :: rest => shownMember m ++ ',' :: ' ' :: shownMembers rest

/-- A quoted name, a colon, a space and a value. -/
def shownMember : String × Value → List Char
  | (name, v) => Text.quoteChars name.toList ++ ':' :: ' ' :: v.shown
end

/-- A value as the text of a message. -/
def Value.asMessage : Value → String
  | .string s => s
  | v => String.ofList v.shown

/-- The name of the type of a value, as messages use it. -/
def Value.typeName : Value → String
  | .null => "NoneType"
  | .bool _ => "bool"
  | .int _ => "int"
  | .float _ => "float"
  | .string _ => "str"
  | .array _ => "list"
  | .object _ => "dict"

end LintDaemon.Json
