import LintDaemon.Literal.Reader

/-!
# Functions without a name

The parameters of a function without a name: those before a slash, those with defaults behind those
without, those behind a star, and one behind two stars. Each ends with a comma, or in front of the
colon.

* `Grammar.function`: a function without a name.
-/

namespace LintDaemon.Literal.Grammar

open Reader

variable (expression : Reader Expression)

/-- The end of a parameter. -/
def parameterEnd : Reader Unit :=
  mark "," <|> ahead (mark ":")

/-- A default. -/
def default : Reader Unit :=
  (do mark "="; let _ ← expression) <|>
  reporting do mark "="; ahead (oneOf [")", ","]); return some .missingDefault

/-- A parameter without a default. -/
def bareParameter : Reader Unit := do
  let _ ← name
  parameterEnd

/-- A parameter with a default. -/
def parameterWithDefault : Reader Unit := do
  let _ ← name
  default expression
  parameterEnd

/-- A parameter that may have a default. -/
def parameter : Reader Unit := do
  let _ ← name
  let _ ← optional (default expression)
  parameterEnd

/-- A slash among parameters. -/
def slash : Reader Unit := do
  mark "/"
  parameterEnd

/-- Parameters without defaults and a slash. -/
def bareBeforeSlash : Reader Unit := do
  let _ ← some1 bareParameter
  slash

/-- Parameters of which some have defaults, and a slash. -/
def defaultsBeforeSlash : Reader Unit := do
  let _ ← many bareParameter
  let _ ← some1 (parameterWithDefault expression)
  slash

/-- Parameters and a slash. -/
def beforeSlash : Reader Unit :=
  bareBeforeSlash <|> defaultsBeforeSlash expression

/-- The parameter behind two stars. -/
def doubleStarParameter : Reader Unit :=
  reporting
    ((do mark "**"; let _ ← name; mark "="; return some .doubleStarDefault) <|>
     (do mark "**"; let _ ← name; mark ","; let _ ← name; return some .afterDoubleStar) <|>
     (do
      mark "**"; let _ ← name; mark ","; let _ ← oneOf ["*", "**", "/"]
      return some .afterDoubleStar)) <|>
  (do mark "**"; bareParameter)

/-- What follows a star: a parameter for the further arguments, or a comma. -/
def behindStar : Reader Unit :=
  bareParameter <|> mark ","

/-- Wrong parameters behind a star. -/
def wrongStarParameters : Reader (Option Disorder) :=
  (do
    mark "*"
    mark ":" <|> (do mark ","; let _ ← oneOf [":", "**"])
    return some .nothingAfterStar) <|>
  (do mark "*"; let _ ← name; mark "="; return some .starDefault) <|>
  (do
    mark "*"; behindStar; let _ ← many (parameter expression); mark "*"; behindStar
    return some .secondStar)

/-- A star and the parameters behind it, or the parameter behind two stars. -/
def starParameters : Reader Unit :=
  reporting (wrongStarParameters expression) <|>
  (do
    mark "*"; bareParameter; let _ ← many (parameter expression)
    let _ ← optional doubleStarParameter) <|>
  (do
    mark "*"; mark ","; let _ ← some1 (parameter expression)
    let _ ← optional doubleStarParameter) <|>
  doubleStarParameter

/-- Wrong parameters. -/
def wrongParameters : Reader (Option Disorder) :=
  (do
    let _ ← many bareParameter
    defaultsBeforeSlash expression <|> (do let _ ← some1 (parameterWithDefault expression))
    bareParameter
    return some .lateParameter) <|>
  (do
    let _ ← many bareParameter
    mark "("; let _ ← separated name; let _ ← optional (mark ","); mark ")"
    return some .bracketedParameters) <|>
  (do mark "/"; mark ","; return some .nothingBeforeSlash) <|>
  (do
    beforeSlash expression; let _ ← many (parameter expression); mark "/"
    return some .secondSlash) <|>
  (do
    let _ ← optional (beforeSlash expression)
    let _ ← many (parameter expression)
    mark "*"
    mark "," <|> bareParameter
    let _ ← many (parameter expression)
    mark "/"
    return some .slashAfterStar) <|>
  (do
    let _ ← some1 (parameter expression); mark "/"; mark "*"
    return some .starAfterSlash)

/-- Parameters. -/
def parameters : Reader Unit :=
  let star := optional (starParameters expression)
  let withDefaults := many (parameterWithDefault expression)
  reporting (wrongParameters expression) <|>
  (do
    bareBeforeSlash; let _ ← many bareParameter; let _ ← withDefaults; let _ ← star) <|>
  (do defaultsBeforeSlash expression; let _ ← withDefaults; let _ ← star) <|>
  (do let _ ← some1 bareParameter; let _ ← withDefaults; let _ ← star) <|>
  (do let _ ← some1 (parameterWithDefault expression); let _ ← star) <|>
  starParameters expression

/-- A function without a name. -/
def function : Reader Expression := do
  mark "lambda"
  let _ ← optional (parameters expression)
  mark ":"
  let _ ← expression
  return .other .function

end LintDaemon.Literal.Grammar
