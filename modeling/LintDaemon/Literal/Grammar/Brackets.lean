import LintDaemon.Literal.Grammar.Comprehension
import LintDaemon.Literal.Template

/-!
# Brackets

What stands between brackets: tuples, groups of one expression, sets, dictionaries and
comprehensions; and the other expressions that hold together without operators.

* `Grammar.atom`: an expression that holds together.
* `Grammar.wrongBinding`: wrong orders of tokens where a name may be bound.
-/

namespace LintDaemon.Literal.Grammar

open Reader

variable (call : Rule → Reader Expression)

/-! ## Bindings -/

/-- A name that is bound to a value. -/
def binding : Reader Expression := do
  let _ ← name
  mark ":="
  let _ ← call .expression
  return .other .binding

/-- An expression that is bound to no name. -/
def unbound : Reader Expression := do
  let e ← call .expression
  notAhead (mark ":=")
  return e

/-- A name that is bound to a value, or an expression. -/
def argument : Reader Expression :=
  binding call <|> unbound call

/-- A name that is bound to a value, or an expression; what is neither may be a wrong binding. -/
def bindingOrExpression : Reader Expression :=
  binding call <|> call .wrongBinding <|> unbound call

/-! ## Tuples, groups and comprehensions -/

/-- An item of a row, or several. -/
def item : Reader Expression :=
  (do mark "*"; return .starred (← call .bitOr)) <|> bindingOrExpression call

/-- Items of a row. -/
def items : Reader (List Expression) := do
  let all ← separated (item call)
  let _ ← optional (mark ",")
  return all

/-- A tuple. -/
def tuple : Reader Expression := do
  mark "("
  let all ← optional do
    let first ← item call
    mark ","
    let rest ← optional (items call)
    return first :: rest.getD []
  mark ")"
  return .tuple (all.getD [])

/-- What a function that stops between its values hands out. -/
def yield : Reader Expression := do
  mark "yield"
  (do mark "from"; let _ ← call .expression) <|>
    (do let _ ← optional (starExpressions call))
  return .other .yield

/-- An expression behind a star. -/
def starred : Reader Expression := do
  mark "*"
  return .starred (← call .expression)

/-- Wrong groups. -/
def wrongGroup : Reader (Option Disorder) :=
  (do mark "("; let _ ← starred call; mark ")"; return some .starInGroup) <|>
  (do mark "("; mark "**"; let _ ← call .expression; mark ")"; return some .doubleStarInGroup)

/-- An expression in brackets. -/
def group : Reader Expression :=
  (do
    mark "("
    let e ← yield call <|> bindingOrExpression call
    mark ")"
    return e) <|>
  reporting (wrongGroup call)

/-- Wrong comprehensions. -/
def wrongComprehension : Reader (Option Disorder) :=
  (do
    let _ ← oneOf ["[", "(", "\x7b"]
    let _ ← starred call
    clauses call
    return some .starInComprehension) <|>
  (do
    let _ ← oneOf ["[", "\x7b"]
    let _ ← item call
    mark ","
    let _ ← items call
    clauses call
    return some .bareComprehensionItems) <|>
  (do
    let _ ← oneOf ["[", "\x7b"]
    let _ ← item call
    mark ","
    clauses call
    return some .bareComprehensionItems)

/-- A comprehension. -/
def comprehension : Reader Expression :=
  (do
    mark "("
    let _ ← argument call
    clauses call
    mark ")"
    return .other .comprehension) <|>
  reporting (wrongComprehension call)

/-! ## Sets and dictionaries -/

/-- A key and its value. -/
def entry : Reader Expression := do
  let key ← call .expression
  mark ":"
  return .entry key (← call .expression)

/-- An entry of a dictionary, or several. -/
def entries : Reader Expression :=
  (do mark "**"; let _ ← call .bitOr; return .doubleStarred) <|> entry call

/-- Something that is no value of a dictionary. -/
def wrongValue : Reader (Option Disorder) :=
  (do
    let _ ← call .expression; mark ":"; mark "*"; let _ ← call .bitOr
    return some .starredValue) <|>
  (do
    let _ ← call .expression; mark ":"; ahead (oneOf ["\x7d", ","])
    return some .missingValue)

/-- Wrong entries of a dictionary. -/
def wrongEntries : Reader (Option Disorder) :=
  (do
    let _ ← separated (entries call)
    mark ","
    (do let _ ← call .expression; notAhead (mark ":"); return some .missingColon) <|>
      wrongValue call) <|>
  wrongValue call

/-- A dictionary. Its wrong forms are always looked for. -/
def dictionary : Reader Expression :=
  (do
    mark "\x7b"
    let all ← optional do
      let all ← separated (entries call)
      let _ ← optional (mark ",")
      return all
    mark "\x7d"
    return .dictionary (all.getD [])) <|>
  (do mark "\x7b"; disordered (wrongEntries call))

/-- A set. -/
def set : Reader Expression := do
  mark "\x7b"
  let all ← items call
  mark "\x7d"
  return .set all

/-- A dictionary made by a comprehension. -/
def dictionaryComprehension : Reader Expression :=
  (do
    mark "\x7b"; let _ ← entry call; clauses call; mark "\x7d"
    return .other .dictionaryComprehension) <|>
  reporting do
    mark "\x7b"; mark "**"; let _ ← call .bitOr; clauses call; mark "\x7d"
    return some .doubleStarInComprehension

/-- A set made by a comprehension. -/
def setComprehension : Reader Expression :=
  (do
    mark "\x7b"; let _ ← bindingOrExpression call; clauses call; mark "\x7d"
    return .other .setComprehension) <|>
  reporting (wrongComprehension call)

/-! ## Atoms -/

/-- The first fault of strings behind each other: that what one holds cannot be read, that one is
of bytes and the one before is not, or that a template cannot be read; `read` says why an
expression in it cannot be. -/
def stringsFault? (read : List Char → Option Fault) : Option Bool → List Quotation → Option Fault
  | _, [] => none
  | isBytes, q :: rest =>
    let own := if q.isFormatted then none else q.fault?
    let mixed := if isBytes.any (· != q.isBytes) then some Fault.mixedStrings else none
    let template := if q.isFormatted then Template.fault? read q else none
    (own.or (mixed.or template)).orElse fun () => stringsFault? read (some q.isBytes) rest

/-- Strings behind each other. -/
def strings (read : List Char → Option Fault) : Reader Expression := do
  let all ← some1 string
  match stringsFault? read none all with
  | some f => fail f
  | none => return if all.any (·.isFormatted) then .other .template else .string

/-- A number. -/
def number : Reader Expression := do
  match ← token? fun | .number n => some n | _ => none with
  | .excessive digits => fail (.tooManyDigits digits)
  | n => return .number n

/-- An expression that holds together without operators. -/
def atom : Reader Expression :=
  (do return .name (← name)) <|>
  (do return .word (← oneOf ["True", "False", "None"])) <|>
  (do
    let _ ← ahead string
    call .strings) <|>
  number <|>
  (do
    ahead (mark "(")
    tuple call <|> group call <|> comprehension call) <|>
  (do
    ahead (mark "\x7b")
    dictionary call <|> set call <|> dictionaryComprehension call <|> setComprehension call) <|>
  (do mark "..."; return .ellipsis)

/-- Wrong orders of tokens where a name may be bound. -/
def wrongBinding : Reader Expression :=
  reporting
    ((do
      let e ← call .expression
      mark ":="
      let _ ← call .expression
      return some (.boundInstead e.kindName)) <|>
    (do
      let _ ← name
      mark "="
      let _ ← call .bitOr
      notAhead (oneOf ["=", ":="])
      return some .lonelyEquals) <|>
    (do
      notAhead (tuple call <|> comprehension call <|>
        (do return .word (← oneOf ["True", "False", "None"])))
      let e ← call .bitOr
      mark "="
      let _ ← call .bitOr
      notAhead (oneOf ["=", ":="])
      return some (.setInstead e.kindName)))

end LintDaemon.Literal.Grammar
