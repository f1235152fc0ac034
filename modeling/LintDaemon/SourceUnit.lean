import LintDaemon.Text.Line
import LintDaemon.Text.Word
import LintDaemon.Text.Quoted

/-!
# Source units

A source unit is a class and its source text, held in memory.

* `isUnitName`: dotted identifiers, such as `foo.Bar`; a file name such as `Bar.java` is one too.
* `SourceUnit.path?`: the file in which the compiler expects a unit. It exists exactly for valid
  names, and each of its parts is an identifier, the last one with the file name suffix.

This is the source unit of section 3 of the specification, with its `relative_path`, and the names
that section 4.2 lets through. Which characters begin and go on in an identifier is settled by
tables of one version of the standard (`isNameStart`, `isNamePart`).
-/

namespace LintDaemon

open LintDaemon.Text

/-- Characters that may begin an identifier. -/
def isNameStart (c : Char) : Bool :=
  c == '$' || (isWordChar c && !isDecimalDigit c)

/-- Characters that may follow in an identifier. -/
def isNamePart (c : Char) : Bool :=
  c == '$' || isWordChar c

/-- A letter, underscore or dollar sign, and then letters, digits, underscores and dollar signs. -/
def isIdentifier : List Char → Bool
  | [] => false
  | c :: rest => isNameStart c && rest.all isNamePart

/-- Identifiers with single points between them. -/
def isUnitNameChars (s : List Char) : Bool :=
  (fields '.' s).all isIdentifier

/-- Whether the compiler accepts a name as a class or file name. -/
def isUnitName (name : String) : Bool :=
  isUnitNameChars name.toList

/-- The suffix of a source file. -/
def sourceSuffix : List Char := ".java".toList

/-- A class and its source. -/
structure SourceUnit where
  /-- The class or file name. -/
  name : String
  /-- The source text. -/
  body : String
  deriving DecidableEq, Repr

/-- The parts of a path with the source suffix on the last one. -/
def withSuffix : List (List Char) → List (List Char)
  | [] => []
  | [last] => [last ++ sourceSuffix]
  | part :: rest => part :: withSuffix rest

/-- The parts of the path of the file in which a class or file of this name belongs; none if the
name is not valid. -/
def pathParts? (name : List Char) : Option (List (List Char)) :=
  let stem := (dropSuffix? sourceSuffix name).getD name
  if isUnitNameChars stem then some (withSuffix (fields '.' stem)) else none

/-- The parts of the path of a unit's file. -/
def SourceUnit.path? (unit : SourceUnit) : Option (List String) :=
  (pathParts? unit.name.toList).map fun parts => parts.map String.ofList

/-- The wording for a name that is not valid. -/
def invalidUnitNameMessage (name : String) : String :=
  "Invalid source unit name: " ++ quote name

end LintDaemon
