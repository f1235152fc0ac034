import LintDaemon.Text.Line

/-!
# Paths

A path in lowest form: empty parts and parts that name the same directory again are left out, a
part that names the parent stays.

* `Path.ofString`, `Path.toString`: reading and writing a path.
* `Path.child`, `Path.parent`: a path one part longer or shorter.

Scope: paths of one kind of system, with slashes between their parts and no names of drives.
-/

namespace LintDaemon

open LintDaemon.Text

/-- A path in lowest form. -/
structure Path where
  /-- What stands before the first part: nothing, one slash or two. -/
  root : String
  /-- The parts. -/
  parts : List String
  deriving DecidableEq, Repr

namespace Path

/-- The root of a written path. Exactly two slashes are kept apart from one. -/
def rootOf : List Char → String
  | '/' :: '/' :: '/' :: _ => "/"
  | '/' :: '/' :: _ => "//"
  | '/' :: _ => "/"
  | _ => ""

/-- The parts of a written path. -/
def partsOf (s : List Char) : List String :=
  ((fields '/' s).filter fun part => !part.isEmpty && part != ['.']).map String.ofList

/-- The lowest form of a written path. -/
def ofString (s : String) : Path :=
  ⟨rootOf s.toList, partsOf s.toList⟩

/-- A path as text; the path without parts is a point. -/
def toString (p : Path) : String :=
  if p.root = "" ∧ p.parts = [] then "." else p.root ++ "/".intercalate p.parts

/-- A path with one more part. -/
def child (p : Path) (part : String) : Path :=
  { p with parts := p.parts ++ [part] }

/-- A path with more parts. -/
def join (p : Path) (parts : List String) : Path :=
  { p with parts := p.parts ++ parts }

/-- A path without its last part. -/
def parent (p : Path) : Path :=
  { p with parts := p.parts.dropLast }

end Path

end LintDaemon
