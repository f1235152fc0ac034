import LintDaemon.Text.Word

/-!
# Patterns

A pattern says what a stretch of a text looks like. Where several stretches fit, the order of its
alternatives decides: of two alternatives the first goes before, and of a repetition the longest,
or the shortest if it is a reluctant one.

* `Pattern.stop?`: where the preferred stretch that fits ends.
* `Pattern.all`: the named parts of the stretches of a text that fit.
-/

namespace LintDaemon.Text

/-- What a stretch of text looks like. -/
inductive Pattern
  /-- Nothing. -/
  | empty
  /-- One character. -/
  | char (p : Char → Bool)
  /-- One pattern behind another. -/
  | seq (first second : Pattern)
  /-- One of two patterns. -/
  | either (first second : Pattern)
  /-- A pattern several times, at most as often as said; the less often the better if it is a
  reluctant one. -/
  | times (reluctant : Bool) (least : Nat) (most : Option Nat) (body : Pattern)
  /-- A pattern whose stretch is given a name. -/
  | named (name : String) (body : Pattern)
  /-- Nothing, where a word begins or ends; or, if `atWord` does not hold, anywhere else. -/
  | wordEdge (atWord : Bool)
  /-- Nothing, where no character of a class stands in front. -/
  | notAfter (p : Char → Bool)

/-- A stretch with a name. -/
structure NamedStretch where
  /-- The name. -/
  name : String
  /-- The first character. -/
  start : Nat
  /-- The character behind the last one. -/
  stop : Nat
  deriving DecidableEq, Repr

/-- A point in a text at which a pattern may go on. -/
structure Point where
  /-- How many characters stand in front of it. -/
  offset : Nat
  /-- The character in front of it. -/
  before : Option Char
  /-- The characters behind it. -/
  rest : List Char
  /-- The stretches with a name so far, the last one first. -/
  found : List NamedStretch
  deriving DecidableEq, Repr

/-- The point behind the next character, if it is of a class. -/
def Point.next? (p : Char → Bool) (a : Point) : Option Point :=
  match a.rest with
  | [] => none
  | c :: rest =>
    if p c then some { a with offset := a.offset + 1, before := some c, rest } else none

/-- Whether a word begins or ends at a point. -/
def Point.isWordEdge (a : Point) : Bool :=
  a.before.any isWordChar != a.rest.head?.any isWordChar

/-- What follows a point: where the whole ends, if it goes on from there. -/
abbrev Course := Point → Option Point

/-- A step taken at least `least` and at most `most` times, and a course behind that. A step that
leads nowhere is not taken beyond the least number. -/
def repeatedly (step : Course → Course) (reluctant : Bool) : Nat → Nat → Course → Course
  | 0, 0, go, a => go a
  | _ + 1, 0, _, _ => none
  | least + 1, most + 1, go, a => step (repeatedly step reluctant least most go) a
  | 0, most + 1, go, a =>
    let further := fun () =>
      step (fun b => if a.offset < b.offset then repeatedly step reluctant 0 most go b else none) a
    if reluctant then (go a).orElse further else (further ()).orElse fun () => go a

namespace Pattern

/-- A stretch that fits, and a course behind it; of the stretches from which the course goes on
the preferred one is taken. -/
def andThen : Pattern → Course → Course
  | empty, go, a => go a
  | char p, go, a => (a.next? p).bind go
  | seq first second, go, a => andThen first (andThen second go) a
  | either first second, go, a => (andThen first go a).orElse fun () => andThen second go a
  | times reluctant least most body, go, a =>
    repeatedly (andThen body) reluctant least (most.getD (least + a.rest.length)) go a
  | named name body, go, a =>
    andThen body (fun b => go { b with found := ⟨name, a.offset, b.offset⟩ :: b.found }) a
  | wordEdge atWord, go, a => if a.isWordEdge == atWord then go a else none
  | notAfter p, go, a => if a.before.any p then none else go a

/-- Where the preferred stretch that begins at a point ends. -/
def stop? (pattern : Pattern) (a : Point) : Option Point :=
  pattern.andThen some a

/-- The named parts of all stretches that fit, from a point on; `skip` counts the characters still
to be passed. -/
def allFrom (pattern : Pattern) (offset : Nat) (before : Option Char) :
    Nat → List Char → List NamedStretch
  | _, [] => []
  | skip + 1, c :: rest => allFrom pattern (offset + 1) (some c) skip rest
  | 0, c :: rest =>
    match pattern.stop? ⟨offset, before, c :: rest, []⟩ with
    | none => allFrom pattern (offset + 1) (some c) 0 rest
    | some stop =>
      stop.found.reverse ++
        allFrom pattern (offset + 1) (some c) (stop.offset - offset - 1) rest

/-- The named parts of the stretches of a text that fit, from its start on, none of which overlaps
another. -/
def all (pattern : Pattern) (s : List Char) : List NamedStretch :=
  allFrom pattern 0 none 0 s

/-! ## Putting patterns together -/

/-- Patterns behind each other. -/
def sequence : List Pattern → Pattern
  | [] => empty
  | [p] => p
  | p :: rest => seq p (sequence rest)

/-- The first of the patterns that fits. -/
def anyOf : Pattern → List Pattern → Pattern
  | p, [] => p
  | p, q :: rest => either p (anyOf q rest)

/-- A text as it is. -/
def literal (s : String) : Pattern :=
  sequence (s.toList.map fun c => char (· == c))

/-- A character out of a text. -/
def oneOf (s : String) : Pattern :=
  char fun c => s.toList.contains c

/-- A pattern at most once. -/
def optional (p : Pattern) : Pattern :=
  times false 0 (some 1) p

/-- A pattern any number of times. -/
def many (p : Pattern) : Pattern :=
  times false 0 none p

/-- A pattern at least once. -/
def some1 (p : Pattern) : Pattern :=
  times false 1 none p

/-- A pattern a number of times. -/
def exactly (n : Nat) (p : Pattern) : Pattern :=
  times false n (some n) p

/-- A pattern between two numbers of times. -/
def between (least most : Nat) (p : Pattern) : Pattern :=
  times false least (some most) p

end Pattern

end LintDaemon.Text
