import LintDaemon.Literal.Reader

/-!
# Comprehensions

What runs through a collection in a comprehension, and under which conditions.

* `Grammar.clauses`: the clauses of a comprehension.
* `Grammar.target`, `Grammar.targetWithBrackets`: what may run through a collection.
-/

namespace LintDaemon.Literal.Grammar

open Reader

variable (call : Rule → Reader Expression)

/-! ## Rows of expressions -/

/-- A row of items by a reader for one: with commas it is a tuple. -/
def row (item : Reader Expression) : Reader Expression := do
  let first ← item
  let rest ← many (do mark ","; item)
  let comma ← optional (mark ",")
  return if rest.isEmpty && comma.isNone then first else .tuple (first :: rest)

/-- Several items at once, or an item. -/
def starExpression : Reader Expression :=
  (do mark "*"; return .starred (← call .bitOr)) <|> call .expression

/-- A row of which an item may stand for several. -/
def starExpressions : Reader Expression :=
  row (call .starExpression)

/-! ## Targets -/

/-- What may run through a collection, perhaps for several items at once. -/
def target : Reader Expression :=
  (do
    mark "*"
    notAhead (mark "*")
    return .starred (← call .target)) <|>
  call .targetWithBrackets

/-- What shows that a target goes on. -/
def targetGoesOn : Reader Unit := do
  let _ ← oneOf ["(", "[", "."]

/-- A name, or targets in brackets. -/
def targetAtom : Reader Expression :=
  (do return .name (← name)) <|>
  (do
    mark "("
    let e ← call .targetWithBrackets
    mark ")"
    return e) <|>
  (do
    mark "("
    let items ← optional do
      let first ← call .target
      let rest ← many (do mark ","; call .target)
      let comma ← optional (mark ",")
      if rest.isEmpty && comma.isNone then absent else return first :: rest
    mark ")"
    return .tuple (items.getD []))

/-- A member of a value, a name, or targets in brackets. -/
def targetWithBrackets : Reader Expression :=
  (do
    let _ ← call .targetPrimary
    mark "."
    let _ ← name
    notAhead targetGoesOn
    return .other .member) <|>
  targetAtom call

/-- What runs through the collection of a clause. -/
def targets : Reader Expression :=
  row (call .target)

/-! ## Clauses -/

/-- The collection and the conditions of a clause. -/
def clauseRest : Reader Unit := do
  let _ ← call .disjunction
  let _ ← many (do mark "if"; call .disjunction)

/-- Something that cannot run through a collection. -/
def wrongTarget : Reader (Option Disorder) := do
  let _ ← optional (mark "async")
  mark "for"
  let e ← starExpressions call
  return e.strangeTarget?.map fun part => .noTarget part.kindName

/-- A clause up to the word behind its targets. -/
def clauseStart : Reader Unit := do
  mark "for"
  let _ ← targets call
  mark "in"

/-- A clause. Behind its targets nothing else is tried. -/
def clause : Reader Unit := do
  let isClause ←
    (do mark "async"; clauseStart call; return true) <|>
    (do clauseStart call; return true) <|>
    reporting (wrongTarget call) <|>
    pure false
  if isClause then clauseRest call else absent

/-- The clauses of a comprehension. -/
def clauses : Reader Unit := do
  let _ ← some1 (clause call)

end LintDaemon.Literal.Grammar
