import LintDaemon.Literal.Grammar.Brackets

/-!
# Arguments of calls

The arguments of a call: first those without names, then those with names.

* `Grammar.arguments`: the arguments of a call.
-/

namespace LintDaemon.Literal.Grammar

open Reader

variable (call : Rule → Reader Expression)

/-- Wrong arguments with names. -/
def wrongNamed : Reader (Option Disorder) :=
  (do
    let word ← oneOf ["True", "False", "None"]
    mark "="
    return some (.noTarget word)) <|>
  (do
    let _ ← name
    mark "="
    let _ ← call .expression
    clauses call
    return some .lonelyEquals) <|>
  (do
    notAhead (do let _ ← name; mark "=")
    let _ ← call .expression
    mark "="
    return some .setArgument)

/-- An argument with a name. -/
def named : Reader Expression :=
  reporting (wrongNamed call) <|>
  (do
    let _ ← name
    mark "="
    let _ ← call .expression
    return .named)

/-- An argument with a name, or several without names. -/
def namedOrStarred : Reader Expression :=
  named call <|> starred call

/-- An argument with a name, or several of them. -/
def namedOrDoubleStarred : Reader Expression :=
  named call <|>
  (do
    mark "**"
    let _ ← call .expression
    return .doubleStarred)

/-- Arguments with names; several without names may stand among them at first. -/
def namedArguments : Reader (List Expression) :=
  (do
    let front ← separated (namedOrStarred call)
    mark ","
    return front ++ (← separated (namedOrDoubleStarred call))) <|>
  separated (namedOrStarred call) <|>
  separated (namedOrDoubleStarred call)

/-- An argument without a name, or several. -/
def positional : Reader Expression :=
  starred call <|>
  (do
    let e ← argument call
    notAhead (mark "=")
    return e)

/-- Arguments in the right order. -/
def orderedArguments : Reader (List Expression) :=
  (do
    let front ← separated (positional call)
    let rest ← optional (do mark ","; namedArguments call)
    return front ++ rest.getD []) <|>
  namedArguments call

/-- Wrong arguments. -/
def wrongArguments : Reader (Option Disorder) :=
  (do
    let _ ← orderedArguments call; mark ","; mark "*"
    return some .lateSeveral) <|>
  (do
    let _ ← call .expression; clauses call; mark ","
    let _ ← optional
      ((do let _ ← orderedArguments call) <|> (do let _ ← call .expression; clauses call))
    return some .bareComprehension) <|>
  (do
    let _ ← name; mark "="; let _ ← call .expression; clauses call
    return some .lonelyEquals) <|>
  (do
    let front ← orderedArguments call
    clauses call
    return if (front.filter (·.isPositional)).length ≤ 1 then none else some .bareComprehension) <|>
  (do
    let _ ← orderedArguments call; mark ","; let _ ← call .expression; clauses call
    return some .bareComprehension) <|>
  (do
    let front ← orderedArguments call
    mark ","
    let _ ← orderedArguments call
    return some (if front.any (·.isDoubleStarred) then .lateAfterNamed else .lateArgument))

/-- The arguments of a call, as a tuple. -/
def arguments : Reader Expression :=
  (do
    let all ← orderedArguments call
    let _ ← optional (mark ",")
    ahead (mark ")")
    return .tuple all) <|>
  reporting (wrongArguments call)

end LintDaemon.Literal.Grammar
