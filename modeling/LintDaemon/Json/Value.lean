import LintDaemon.Number.Binary64

/-!
# JSON values

* `Json.Value`: a decoded JSON text.
* `Json.Value.setMember`: a repeated name keeps its first place and its last value.

Whole numbers are exact, whatever their size; other numbers are floating-point ones, the infinities
and the one that is no number included.
-/

namespace LintDaemon.Json

/-- A JSON value. Whole numbers are kept apart from those with a fraction or an exponent, and the
members of an object in the order in which their names first appeared. -/
inductive Value
  /-- The empty value. -/
  | null
  /-- A truth value. -/
  | bool (b : Bool)
  /-- A whole number. -/
  | int (n : Int)
  /-- A number with a fraction or an exponent. -/
  | float (x : Binary64)
  /-- A text. -/
  | string (s : String)
  /-- A list of values. -/
  | array (items : List Value)
  /-- Named values. -/
  | object (members : List (String × Value))
  deriving Inhabited, Repr

namespace Value

/-- The members of an object with one more: a name that is there keeps its place. -/
def setMember (name : String) (v : Value) : List (String × Value) → List (String × Value)
  | [] => [(name, v)]
  | (n, w) :: rest => if n = name then (n, v) :: rest else (n, w) :: setMember name v rest

/-- The value of a name among members. -/
def member? (name : String) : List (String × Value) → Option Value
  | [] => none
  | (n, v) :: rest => if n = name then some v else member? name rest

/-- The value of a name in an object. -/
def get? (name : String) : Value → Option Value
  | .object members => member? name members
  | _ => none

/-- Whether a value is null, false, zero, or an empty text, list or object. -/
def isVoid : Value → Bool
  | .null => true
  | .bool b => !b
  | .int n => n == 0
  | .float x => x.isZero
  | .string s => s == ""
  | .array items => items.isEmpty
  | .object members => members.isEmpty

end Value

end LintDaemon.Json
