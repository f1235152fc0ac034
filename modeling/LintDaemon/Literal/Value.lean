import LintDaemon.Literal.Expression
import LintDaemon.Number.Binary64

/-!
# Values of expressions

Which expressions write a value: literals, and collections of them.

* `Expression.value`: what matters of the value that an expression writes.

Scope: where a message would show the address of an expression in memory, that is left out of it.
-/

namespace LintDaemon.Literal

/-- Values that can be neither an item of a set nor a key of a dictionary. -/
inductive Unhashable
  | set
  | dictionary
  deriving DecidableEq, Repr

/-- What such values are called. -/
def Unhashable.name : Unhashable → String
  | set => "set"
  | dictionary => "dict"

/-- Why an expression writes no value. -/
inductive ValueFault
  /-- It is no literal. -/
  | noLiteral
  /-- It takes the entries of another dictionary. -/
  | takenEntries
  /-- A set has an item, or a dictionary a key, that it cannot have. -/
  | unhashable (kind : Unhashable)
  /-- A whole number is too large to be the real part of a complex number. -/
  | tooLarge
  deriving DecidableEq, Repr

/-- The wording of a fault. -/
def ValueFault.message : ValueFault → String
  | noLiteral => "malformed node or string"
  | takenEntries => "malformed node or string: None"
  | unhashable kind => "unhashable type: '" ++ kind.name ++ "'"
  | tooLarge => "int too large to convert to float"

namespace Expression

/-- The number that an expression with or without a sign writes. -/
def signedNumber? : Expression → Option Number
  | number n | signed (number n) => some n
  | _ => none

/-- Whether a whole number is too large to be the real part of a complex number. -/
def isTooLarge (n : Nat) : Bool :=
  Binary64.ofDecimal false n 0 = .infinite false

/-- A real part that is a number, and an imaginary part that is one. -/
def complexValue (left right : Expression) : Except ValueFault (Option Unhashable) :=
  match left.signedNumber?, right with
  | some (.whole n), number .imaginary =>
    if isTooLarge n then .error .tooLarge else .ok none
  | some .real, number .imaginary => .ok none
  | _, _ => .error .noLiteral

mutual

/-- Whether an expression writes a value; and, if that can be no item of a set, why. -/
def value : Expression → Except ValueFault (Option Unhashable)
  | word _ | ellipsis | number _ | string | signed (number _) => .ok none
  | tuple items => firstUnhashable items
  | set items => (checkItems items).map fun () => some .set
  | dictionary entries => (checkEntries entries).map fun () => some .dictionary
  | call (name f) [] => if f = "set".toList then .ok (some .set) else .error .noLiteral
  | sum left right => complexValue left right
  | _ => .error .noLiteral

/-- The first item of a tuple that can be no item of a set. -/
def firstUnhashable : List Expression → Except ValueFault (Option Unhashable)
  | [] => .ok none
  | e :: rest => do
    let first ← value e
    let further ← firstUnhashable rest
    return first.or further

/-- Whether expressions write items of a set. -/
def checkItems : List Expression → Except ValueFault Unit
  | [] => .ok ()
  | e :: rest => do
    match ← value e with
    | some kind => .error (.unhashable kind)
    | none => checkItems rest

/-- Whether expressions are entries of a dictionary. -/
def checkEntries : List Expression → Except ValueFault Unit
  | [] => .ok ()
  | entry k v :: rest => do
    let key ← value k
    let _ ← value v
    match key with
    | some kind => .error (.unhashable kind)
    | none => checkEntries rest
  | _ :: _ => .error .takenEntries

end

end Expression

end LintDaemon.Literal
