import LintDaemon.Literal.Grammar.Arguments
import LintDaemon.Literal.Grammar.Parameters

/-!
# The grammar of expressions

Expressions by how closely their operators bind, from the word `or` to calls.

* `Grammar.body`: what a rule looks for, by means of the rules.
* `Grammar.rule`: a rule by itself.
* `Grammar.whole`, `Grammar.field`: a whole text, and a field of a template.
-/

namespace LintDaemon.Literal.Grammar

open Reader

variable (call : Rule → Reader Expression)

/-! ## Calls and members -/

/-- What stands behind an expression to make another one of it. -/
def step (follow : Reader Unit) (e : Expression) : Reader Expression :=
  (do
    mark "."
    let _ ← name
    follow
    return .other .member) <|>
  (do
    let c ← comprehension call
    follow
    return .call e [c]) <|>
  (do
    mark "("
    let all ← optional (call .arguments)
    mark ")"
    follow
    return .call e (match all with
      | some (.tuple all) => all
      | _ => []))

/-- Members of values, calls, and what holds together without operators. -/
def primary : Reader Expression :=
  growing (atom call) (step call (pure ()))

/-- The part of a target in front of its last member. -/
def targetPrimary : Reader Expression :=
  growing
    (do
      let e ← atom call
      ahead targetGoesOn
      return e)
    (step call (ahead targetGoesOn))

/-! ## Operators -/

/-- An expression that waits for its value. -/
def awaited : Reader Expression :=
  (do
    mark "await"
    let _ ← call .primary
    return .other .await) <|>
  call .primary

/-- A sign, and powers. -/
def factor : Reader Expression :=
  (do
    let sign ← oneOf ["+", "-", "~"]
    let e ← call .factor
    return if sign = "~" then .other .combination else .signed e) <|>
  (do
    let _ ← call .awaited
    mark "**"
    let _ ← call .factor
    return .other .combination) <|>
  call .awaited

/-- Operators of one rank between operands of the next rank, the leftmost ones first. -/
def leftToRight (operators : List String) (operand : Reader Expression) : Reader Expression :=
  growing operand fun left => do
    let operator ← oneOf operators
    let right ← operand
    return if operator ∈ ["+", "-"] then .sum left right else .other .combination

/-- An operator that compares, and whether it asks for membership. -/
def comparisonOperator : Reader Bool :=
  (do
    let operator ← oneOf ["==", "!=", "<=", "<", ">=", ">", "in"]
    return operator = "in") <|>
  (do mark "not"; mark "in"; return false) <|>
  (do mark "is"; let _ ← optional (mark "not"); return false)

/-- Comparisons. -/
def comparison : Reader Expression := do
  let left ← call .bitOr
  let behind ← many do
    let asksMembership ← comparisonOperator
    let _ ← call .bitOr
    return asksMembership
  return match behind with
    | [] => left
    | asksMembership :: _ => .comparison asksMembership left

/-- A negation, or a comparison. -/
def inversion : Reader Expression :=
  (do
    mark "not"
    let _ ← call .inversion
    return .other .combination) <|>
  comparison call

/-- Operands with a word between them. -/
def joined (word : String) (operand : Reader Expression) : Reader Expression := do
  let first ← operand
  let rest ← many (do mark word; operand)
  return if rest.isEmpty then first else .other .combination

/-! ## Expressions -/

/-- A value under a condition, and another one. -/
def choice : Reader Expression := do
  let _ ← call .disjunction
  mark "if"
  let _ ← call .disjunction
  mark "else"
  let _ ← call .expression
  return .other .choice

/-- An expression. -/
def plainExpression : Reader Expression :=
  choice call <|> call .disjunction <|> function (call .expression)

/-- Names that are words with a meaning of their own elsewhere. -/
def softKeywords : List String := ["_", "case", "match"]

/-- A name that may begin something else than an expression: the start of such a word, or a name in
front of a string. -/
def ambiguousName : Reader Unit := do
  let text ← name
  if softKeywords.any (text.isPrefixOf ·.toList) then return else
    let _ ← string

/-- Wrong orders of tokens where an expression may stand. Two expressions behind each other between
brackets may lack a comma. -/
def wrongExpression : Reader (Option Disorder) :=
  (do
    notAhead ambiguousName
    let e ← call .disjunction
    let _ ← uncritical (plainExpression call)
    let isInBrackets := (← last?).any (·.depth != 0)
    return if e.statement?.isNone && isInBrackets then some .missingComma else none) <|>
  (do
    let _ ← call .disjunction
    mark "if"
    let _ ← call .disjunction
    notAhead (oneOf ["else", ":"])
    return some .missingElse)

/-- A statement without the brackets that it needs. -/
def wrongStatement : Reader (Option Disorder) := do
  let text ← name
  notAhead (mark "(")
  let _ ← starExpressions call
  return (Expression.name text).statement?.map .missingBrackets

/-- What a rule looks for, by means of the rules; `read` says why the expression in a field of a
template cannot be read. -/
def body (read : List Char → Option Fault) : Rule → Reader Expression
  | .expression =>
    reporting (wrongExpression call) <|> reporting (wrongStatement call) <|> plainExpression call
  | .starExpression => starExpression call
  | .disjunction => joined "or" (call .conjunction)
  | .conjunction => joined "and" (call .inversion)
  | .inversion => inversion call
  | .bitOr => leftToRight ["|"] (call .bitXor)
  | .bitXor => leftToRight ["^"] (call .bitAnd)
  | .bitAnd => leftToRight ["&"] (call .shift)
  | .shift => leftToRight ["<<", ">>"] (call .sum)
  | .sum => leftToRight ["+", "-"] (call .term)
  | .term => leftToRight ["*", "/", "//", "%", "@"] (call .factor)
  | .factor => factor call
  | .awaited => awaited call
  | .primary => primary call
  | .strings => strings read
  | .arguments => arguments call
  | .target => target call
  | .targetWithBrackets => targetWithBrackets call
  | .targetPrimary => targetPrimary call
  | .wrongBinding => wrongBinding call

/-- A rule, if rules lie at most `depth` deep inside each other. -/
def ruleWithin (read : List Char → Option Fault) : Nat → Rule → Reader Expression
  | 0, _ => absent
  | depth + 1, rule => known rule (body (ruleWithin read depth) read rule)

/-- A rule. Without a token read between them no rule lies inside itself, so the number of tokens
bounds the depth. -/
def rule (read : List Char → Option Fault) (r : Rule) : Reader Expression := fun t p =>
  ruleWithin read (Rule.count * (t.tokens.size + 1)) r t p

/-- What a field of a template holds, with brackets around it. -/
def field (read : List Char → Option Fault) : Reader Expression :=
  starExpressions (rule read)

/-- A whole text. -/
def whole (read : List Char → Option Fault) : Reader Expression := do
  let e ← row (rule read .expression)
  let _ ← many (token? fun token => if token = .lineEnd then some () else none)
  let _ ← token? fun token => if token = .finish then some () else none
  return e

end LintDaemon.Literal.Grammar
