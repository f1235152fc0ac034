import LintDaemon.Literal.Grammar

/-!
# Reading an expression

A text is read twice if it has to be: first by the rules for what is right, then also by those for
what is wrong, which say more about it. A fault that lies in the characters of the text goes before
one in the order of its tokens.

* `Expression.ofText`: the expression that a text writes.
-/

namespace LintDaemon.Literal

namespace TokenTable

/-- The tokens of a text for look-up. -/
def ofText (s : List Char) : TokenTable :=
  let list := TokenList.ofText s
  ⟨list.tokens.toArray, list.ending⟩

/-- The last of the first `n` tokens. -/
def lastOf? (t : TokenTable) (n : Nat) : Option PlacedToken :=
  if n = 0 then none else t.tokens[n - 1]?

/-- The fault to be told if one is met behind `n` tokens. If it is not one of the characters, the
rest of the text is looked at as well: a fault of the characters counts, and so does a bracket that
is never closed if it stands in an earlier line. Where nothing is left to look at, only a fault of
which nothing more can be said gives way to such a bracket. -/
def prevailing (t : TokenTable) (n : Nat) (fault : Fault) : Fault :=
  match t.ending with
  | .complete => fault
  | .broken f => f
  | .stopped f opened =>
    match opened, t.lastOf? n with
    | some o, some last =>
      let givesWay := fault = .disorder .plain || !last.endsText
      if f ≠ fault ∧ givesWay ∧ o.line < last.line then .neverClosed o.bracket else fault
    | _, _ => fault

/-- What a reader finds in tokens, or the fault to be told. -/
def read (t : TokenTable) (reader : Reader Expression) : Except Fault Expression :=
  match reader t ⟨0, 0, false, ∅⟩ with
  | (.found e, _) => .ok e
  | (.fault f, p) => .error (t.prevailing p.furthest f)
  | (.absent, p) =>
    match reader t ⟨0, p.furthest, true, ∅⟩ with
    | (.fault f, q) => .error (t.prevailing q.furthest f)
    | (_, q) =>
      if (t.lastOf? p.furthest).any (·.token = .indent) then .error .indented
      else .error (t.prevailing q.furthest (.disorder .plain))

end TokenTable

namespace Expression

/-- Why what a field of a template holds cannot be read, if templates lie at most `depth` deep
inside each other. Of fields inside each other the innermost one is told of. -/
def fieldFault? : Nat → List Char → Option Fault
  | 0, _ => none
  | depth + 1, s =>
    let t := TokenTable.ofText ('(' :: s ++ [')', '\n'])
    match t.read (Grammar.field (fieldFault? depth)) with
    | .ok _ => none
    | .error (.inField isOfCharacters f) => some (.inField isOfCharacters f)
    | .error f => some (.inField (t.ending = .broken f) f)

/-- The expression that a text writes. A template is shorter than the text in which it lies. -/
def ofText (s : List Char) : Except Fault Expression :=
  if s.contains '\x00' then .error .null
  else (TokenTable.ofText s).read (Grammar.whole (fieldFault? s.length))

end Expression

end LintDaemon.Literal
