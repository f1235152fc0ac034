import LintDaemon.SourceUnit
import LintDaemon.Text.Blank

/-!
# Requests

What a client asks of the daemon. The first line of a request is its header: fields with tabs
between them, of which the first names what is asked.

* `Request`: a request as the daemon has understood it.
* `Request.ofHeader`: the request that a header announces.
* `Request.encode?`: a request as a client writes it.

This is `parse_header` of section 4.2 of the specification, and the encoders for clients of section
4.5. Fields are delimited by tabs only; the older variant with spaces, which section 4.2 rules out,
is an unknown request here too. An encoded text need not be read back as the request that it is made
of: values may hold line feeds.
-/

namespace LintDaemon

open LintDaemon.Text

/-- What is wrong with a request. -/
inductive Malformation
  /-- The header is all white space. -/
  | emptyHeader
  /-- A lint header names no class. -/
  | missingName
  /-- A lint header names something that is no class. -/
  | invalidName (name : String)
  /-- A set header lacks the property or the value. -/
  | missingValue
  /-- The client fell silent before its header was complete. -/
  | headerTimedOut
  /-- The client fell silent before the end of the source. -/
  | bodyTimedOut
  /-- The client closed before the end of the source. -/
  | bodyEnded
  /-- A reason that comes in words. -/
  | stated (text : String)
  deriving DecidableEq, Repr

/-- What a client asks. -/
inductive Request
  /-- Compile a class and report what the compiler says. -/
  | lint (name body : String)
  /-- Change a setting of the session. -/
  | set (property value : String)
  /-- Shut the daemon down. -/
  | kill
  /-- Something that the daemon does not know. -/
  | unknown (header : String)
  /-- Something that is no complete request. -/
  | malformed (header : String) (fault : Malformation)
  deriving DecidableEq, Repr

namespace Request

/-- The character between the fields of a header. -/
def delimiter : Char := '\t'

/-- The line that ends a source. -/
def sentinel : List Char := "END".toList

/-- The method that asks for diagnostics. -/
def lintMethod : List Char := "LINT".toList

/-- The method that changes a setting. -/
def setMethod : List Char := "SET".toList

/-- The method that stops the daemon. -/
def killMethod : List Char := "KILL".toList

/-- The property that holds the class path. -/
def classpathProperty : String := "CLASSPATH"

/-- The property that holds the place of the compiler's installation. -/
def jdkProperty : String := "JDK"

/-- The first field of a header. -/
def methodOf (header : List Char) : List Char :=
  (cut delimiter header).1

/-- The request that the fields behind the lint method announce; its source is still to come. -/
def ofLintFields (header : List Char) (after : Option (List Char)) : Request :=
  let name := ((after.map (cut delimiter)).map (·.1)).getD []
  if name = [] then .malformed (String.ofList header) .missingName
  else if isUnitNameChars name then .lint (String.ofList name) ""
  else .malformed (String.ofList header) (.invalidName (String.ofList name))

/-- The request that the fields behind the set method announce; the value is all that follows the
second delimiter. -/
def ofSetFields (header : List Char) (after : Option (List Char)) : Request :=
  match after.map (cut delimiter) with
  | some (property, some value) => .set (String.ofList property) (String.ofList value)
  | _ => .malformed (String.ofList header) .missingValue

/-- The request that a header line announces. -/
def ofHeader (header : List Char) : Request :=
  if allBlank header then .malformed (String.ofList header) .emptyHeader
  else
    let (method, after) := cut delimiter header
    if method = lintMethod then ofLintFields header after
    else if method = setMethod then ofSetFields header after
    else if method = killMethod then .kill
    else .unknown (String.ofList header)

/-- The method that a header names. -/
def methodName (header : String) : String :=
  String.ofList (methodOf header.toList)

/-- A source with a line feed at its end, unless it is empty. -/
def terminated (source : List Char) : List Char :=
  match source.getLast? with
  | none | some '\n' => source
  | some _ => source ++ ['\n']

/-- A lint request as text: the header, the source, and the sentinel line. -/
def encodeLint (name source : List Char) : List Char :=
  lintMethod ++ delimiter :: (name ++ '\n' :: (terminated source ++ (sentinel ++ ['\n'])))

/-- A set request as text. -/
def encodeSet (property value : List Char) : List Char :=
  setMethod ++ delimiter :: (property ++ delimiter :: (value ++ ['\n']))

/-- A kill request as text. -/
def encodeKill : List Char :=
  killMethod ++ ['\n']

/-- A request as text, if clients send such a request. -/
def encode? : Request → Option (List Char)
  | .lint name body => some (encodeLint name.toList body.toList)
  | .set property value => some (encodeSet property.toList value.toList)
  | .kill => some encodeKill
  | .unknown _ | .malformed _ _ => none

end Request

/-- The wording of what is wrong with a request. -/
def Malformation.message : Malformation → String
  | .emptyHeader => "Empty request header"
  | .missingName => "LINT requires a class name"
  | .invalidName name => "Invalid class name: " ++ name
  | .missingValue => "SET requires a property and a value"
  | .headerTimedOut => "Timed out waiting for request header"
  | .bodyTimedOut => "Timed out waiting for END line"
  | .bodyEnded => "Stream ended before END line"
  | .stated text => text

end LintDaemon
