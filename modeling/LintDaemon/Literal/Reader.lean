import LintDaemon.Literal.Expression
import LintDaemon.Literal.Token
import Std.Data.HashMap

/-!
# Reading tokens

A reader looks for something at a place in a row of tokens. It finds it and goes on behind it, or it
does not and another reader may be tried at the same place, or it meets a fault that ends the whole.

* `Reader`: the readers, with `Reader.orElse` for alternatives that are tried in order.
* `Reader.known`: a reader whose results are remembered.
-/

namespace LintDaemon.Literal

/-- Rules of the grammar whose results are remembered. -/
inductive Rule
  | expression
  | starExpression
  | disjunction
  | conjunction
  | inversion
  | bitOr
  | bitXor
  | bitAnd
  | shift
  | sum
  | term
  | factor
  | awaited
  | primary
  | strings
  | arguments
  | target
  | targetWithBrackets
  | targetPrimary
  | wrongBinding
  deriving DecidableEq, Repr, Hashable

namespace Rule

/-- How many rules there are. -/
def count : Nat := 20

end Rule

/-- How far the reading is. -/
structure Progress where
  /-- How many tokens are read. -/
  position : Nat
  /-- How many tokens have been looked at. -/
  furthest : Nat
  /-- Whether wrong orders of tokens are looked for. -/
  isCritical : Bool
  /-- What rules found at places, and how many tokens were read then. -/
  known : Std.HashMap (Rule × Nat) (Option (Expression × Nat))

/-- What a reader finds. -/
inductive Outcome (α : Type)
  /-- What it looks for. -/
  | found (a : α)
  /-- Something else. -/
  | absent
  /-- A reason to end the reading. -/
  | fault (f : Fault)
  deriving Repr

/-- The tokens of a text for look-up by position. -/
structure TokenTable where
  /-- The tokens. -/
  tokens : Array PlacedToken
  /-- How they end. -/
  ending : Ending

/-- A way to read tokens. -/
def Reader (α : Type) : Type :=
  TokenTable → Progress → Outcome α × Progress

namespace Reader

variable {α β : Type}

instance : Monad Reader where
  pure a := fun _ p => (.found a, p)
  bind r f := fun t p =>
    match r t p with
    | (.found a, p) => f a t p
    | (.absent, p) => (.absent, p)
    | (.fault e, p) => (.fault e, p)

/-- Nothing is found. -/
def absent : Reader α := fun _ p => (.absent, p)

/-- The reading ends. -/
def fail (f : Fault) : Reader α := fun _ p => (.fault f, p)

/-- A reader, and another one at the same place if it does not find anything. -/
def orElse (r : Reader α) (s : Unit → Reader α) : Reader α := fun t p =>
  let position := p.position
  match r t p with
  | (.absent, q) => s () t { q with position }
  | result => result

instance : OrElse (Reader α) := ⟨orElse⟩

/-- The next token. -/
def next : Reader PlacedToken := fun t p =>
  match t.tokens[p.position]? with
  | some token =>
    (.found token,
      { p with position := p.position + 1, furthest := max p.furthest (p.position + 1) })
  | none =>
    match t.ending with
    | .broken f | .stopped f _ => (.fault f, p)
    | .complete => (.absent, p)

/-- The last token that is read. -/
def last? : Reader (Option PlacedToken) := fun t p =>
  (.found (if p.position = 0 then none else t.tokens[p.position - 1]?), p)

/-- What `f` takes from the next token, if it takes anything. -/
def token? (f : Token → Option α) : Reader α := do
  match f (← next).token with
  | some a => return a
  | none => absent

/-- A mark. -/
def mark (text : String) : Reader Unit :=
  token? fun token => if token = .mark text then some () else none

/-- One of several marks. -/
def oneOf (texts : List String) : Reader String :=
  token? fun
    | .mark text => if text ∈ texts then some text else none
    | _ => none

/-- A name. -/
def name : Reader (List Char) :=
  token? fun
    | .name text => some text
    | _ => none

/-- A string. -/
def string : Reader Quotation :=
  token? fun
    | .string q => some q
    | _ => none

/-- What a reader finds, or nothing. -/
def optional (r : Reader α) : Reader (Option α) :=
  (do return some (← r)) <|> pure none

/-- Whether a reader finds anything; nothing is read. -/
def sees (r : Reader α) : Reader Bool := fun t p =>
  let position := p.position
  match r t p with
  | (.found _, q) => (.found true, { q with position })
  | (.absent, q) => (.found false, { q with position })
  | (.fault f, q) => (.fault f, q)

/-- What stands in front of something. -/
def ahead (r : Reader α) : Reader Unit := do
  if ← r.sees then return else absent

/-- What does not stand in front of something. -/
def notAhead (r : Reader α) : Reader Unit := do
  if ← r.sees then absent else return

/-- What a reader finds as often as it finds anything, at most as often as said. -/
def atMost (r : Reader α) : Nat → Reader (List α)
  | 0 => pure []
  | n + 1 => do
    match ← r.optional with
    | none => return []
    | some a => return a :: (← atMost r n)

/-- What a reader finds as often as it finds anything; it reads a token each time. -/
def many (r : Reader α) : Reader (List α) := fun t p =>
  r.atMost (t.tokens.size + 1) t p

/-- What a reader finds at least once. -/
def some1 (r : Reader α) : Reader (List α) := do
  let a ← r
  return a :: (← r.many)

/-- What a reader finds between commas, at least once. -/
def separated (r : Reader α) : Reader (List α) := do
  let a ← r
  return a :: (← many (do mark ","; r))

/-- What a reader finds, and what steps make of it as often as they can be taken. -/
def grow (step : α → Reader α) : Nat → α → Reader α
  | 0, a => pure a
  | n + 1, a => do
    match ← optional (step a) with
    | none => return a
    | some b => grow step n b

/-- What a reader finds, and what steps make of it as often as they can be taken; each of them
reads a token. -/
def growing (r : Reader α) (step : α → Reader α) : Reader α := fun t p =>
  (do grow step (t.tokens.size + 1) (← r) : Reader α) t p

/-- The fault that a reader for wrong orders of tokens finds; it may also see that there is none. -/
def disordered (r : Reader (Option Disorder)) : Reader α := do
  match ← r with
  | some d => fail (.disorder d)
  | none => absent

/-- The fault that a reader for wrong orders of tokens finds, if they are looked for. -/
def reporting (r : Reader (Option Disorder)) : Reader α := fun t p =>
  if p.isCritical then (disordered r : Reader α) t p else (.absent, p)

/-- A reader that does not look for wrong orders of tokens. -/
def uncritical (r : Reader α) : Reader α := fun t p =>
  let isCritical := p.isCritical
  let (result, q) := r t { p with isCritical := false }
  (result, { q with isCritical })

/-- A reader for a rule, which is not used again where the rule has been tried before. -/
def known (rule : Rule) (r : Reader Expression) : Reader Expression := fun t p =>
  let place := (rule, p.position)
  match p.known[place]? with
  | some (some (e, position)) => (.found e, { p with position })
  | some none => (.absent, p)
  | none =>
    match r t p with
    | (.found e, ⟨position, furthest, isCritical, known⟩) =>
      (.found e, ⟨position, furthest, isCritical, known.insert place (some (e, position))⟩)
    | (.absent, ⟨position, furthest, isCritical, known⟩) =>
      (.absent, ⟨position, furthest, isCritical, known.insert place none⟩)
    | (.fault f, q) => (.fault f, q)

end Reader

end LintDaemon.Literal
