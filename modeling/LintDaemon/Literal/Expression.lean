import LintDaemon.Literal.Spelling

/-!
# Expressions

What an expression is, as far as it matters for the value that it writes: of everything but
literals only the kind is kept.

* `Expression`: the expressions.
* `Expression.kindName`: what an expression is called.
* `Expression.strangeTarget?`: the part of an expression that cannot run through a collection.
-/

namespace LintDaemon.Literal

/-- Expressions that write no value themselves, by what they are called. -/
inductive Kind
  | member
  | function
  | combination
  | comprehension
  | setComprehension
  | dictionaryComprehension
  | yield
  | await
  | choice
  | binding
  | template
  deriving DecidableEq, Repr

/-- What an expression of a kind is called. -/
def Kind.name : Kind → String
  | member => "attribute"
  | function => "lambda"
  | combination => "expression"
  | comprehension => "generator expression"
  | setComprehension => "set comprehension"
  | dictionaryComprehension => "dict comprehension"
  | yield => "yield expression"
  | await => "await expression"
  | choice => "conditional expression"
  | binding => "named expression"
  | template => "f-string expression"

/-- An expression. -/
inductive Expression
  /-- A variable. -/
  | name (text : List Char)
  /-- One of the words that write a value. -/
  | word (text : String)
  /-- Three points. -/
  | ellipsis
  /-- A number. -/
  | number (n : Number)
  /-- Strings behind each other. -/
  | string
  /-- A row of items. -/
  | tuple (items : List Expression)
  /-- A set of items. -/
  | set (items : List Expression)
  /-- A dictionary of entries. -/
  | dictionary (entries : List Expression)
  /-- An entry of a dictionary. -/
  | entry (key value : Expression)
  /-- A call with arguments. -/
  | call (function : Expression) (arguments : List Expression)
  /-- An argument with a name. -/
  | named
  /-- Several items at once. -/
  | starred (items : Expression)
  /-- Several entries or named arguments at once. -/
  | doubleStarred
  /-- A sign in front of an operand. -/
  | signed (operand : Expression)
  /-- A sum or a difference. -/
  | sum (left right : Expression)
  /-- A comparison, and whether it asks first for membership. -/
  | comparison (asksMembership : Bool) (left : Expression)
  /-- Any other expression. -/
  | other (kind : Kind)
  deriving Repr

namespace Expression

/-- What an expression is called. -/
def kindName : Expression → String
  | name _ => "name"
  | word text => text
  | ellipsis => "ellipsis"
  | number _ | string => "literal"
  | tuple _ => "tuple"
  | set _ => "set display"
  | dictionary _ | entry _ _ => "dict literal"
  | call _ _ => "function call"
  | named | doubleStarred => "argument"
  | starred _ => "starred"
  | signed _ | sum _ _ => "expression"
  | comparison _ _ => "comparison"
  | other kind => kind.name

mutual

/-- The part of an expression that cannot run through a collection. A comparison that asks for
membership is the target with the collection. -/
def strangeTarget? : Expression → Option Expression
  | name _ | other .member => none
  | tuple items => firstStrange? items
  | starred items => strangeTarget? items
  | comparison asksMembership left => if asksMembership then strangeTarget? left else none
  | e => some e

/-- The first part of several expressions that cannot run through a collection. -/
def firstStrange? : List Expression → Option Expression
  | [] => none
  | e :: rest => (strangeTarget? e).orElse fun () => firstStrange? rest

end

/-- The names of statements that need brackets. -/
def statements : List String := ["print", "exec"]

/-- The statement that an expression names. -/
def statement? : Expression → Option String
  | name text => statements.find? (·.toList = text)
  | _ => none

/-- Whether an argument of a call has no name. -/
def isPositional : Expression → Bool
  | named | doubleStarred => false
  | _ => true

/-- Whether an expression stands for several entries or named arguments at once. -/
def isDoubleStarred : Expression → Bool
  | doubleStarred => true
  | _ => false

end Expression

end LintDaemon.Literal
