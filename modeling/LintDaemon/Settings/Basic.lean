import LintDaemon.Number.Numeral
import LintDaemon.Text.Blank
import LintDaemon.Text.LetterCase
import LintDaemon.Text.Quoted

/-!
# Settings

* `Settings`: what can be set of the daemon.
* `Settings.ofValues`: the settings that named texts and the environment give.

A value that is all white space counts as not given. What the environment gives goes before what
the texts give, except for white space.

This is section 8.2 of the specification. A port has to lie in its range; the numbers of seconds are
taken as they are, so that those that are no time limit are only refused where they are used
(`timeLimitError?`, `waitError?`).
-/

namespace LintDaemon

open LintDaemon.Text

/-- Named texts, each name once. -/
abbrev Values := List (String × String)

/-- What can be set of the daemon. -/
structure Settings where
  /-- The host to listen at. -/
  host : String
  /-- The port to listen at. -/
  port : Int
  /-- How many seconds a client may be silent; zero stands for no limit. -/
  readTimeout : Binary64
  /-- How many seconds a compilation may take. -/
  compileTimeout : Binary64
  /-- The first class path. -/
  classpath : String
  /-- The first installation of the compiler. -/
  jdkHome : Option String
  /-- From which level on messages are logged. -/
  logLevel : String
  deriving DecidableEq, Repr

namespace Settings

/-- The host where none is set. -/
def defaultHost : String := "127.0.0.1"

/-- The port where none is set. -/
def defaultPort : Int := 56789

/-- The time for reading where none is set. -/
def defaultReadTimeout : Binary64 := .ofNat 30

/-- The time for compiling where none is set. -/
def defaultCompileTimeout : Binary64 := .ofNat 60

/-- The log level where none is set. -/
def defaultLogLevel : String := "INFO"

/-- The settings where nothing is set. -/
def default : Settings :=
  ⟨defaultHost, defaultPort, defaultReadTimeout, defaultCompileTimeout, "", none,
    defaultLogLevel⟩

/-- Why values give no settings. -/
inductive ValueError
  /-- The port is no whole number. -/
  | invalidPort (text : String)
  /-- The port is none. -/
  | portOutOfRange (port : Int)
  /-- A time is no number. -/
  | invalidNumber (name text : String)
  deriving DecidableEq, Repr

/-- The wording for values that give no settings. -/
def ValueError.message : ValueError → String
  | .invalidPort text => "Invalid port: " ++ quote text
  | .portOutOfRange port => "Port out of range: " ++ toString port
  | .invalidNumber name text => "Invalid value for '" ++ name ++ "': " ++ quote text

/-- The text of a name; the empty text if it has none. -/
def text (values : Values) (name : String) : String :=
  (values.lookup name).getD ""

/-- Whether a text is all white space. -/
def isUnset (text : String) : Bool :=
  allBlank text.toList

/-- A text without white space around it, or another one if nothing is left. -/
def trimmedOr (text default : String) : String :=
  if isUnset text then default else trimmed text

/-- The port that a text writes. -/
def readPort (text : String) : Except ValueError Int :=
  if isUnset text then .ok defaultPort
  else
    match Numeral.int text.toList with
    | .error _ => .error (.invalidPort text)
    | .ok port => if 0 ≤ port ∧ port ≤ 65535 then .ok port else .error (.portOutOfRange port)

/-- The number of seconds that a text writes. -/
def readSeconds (name text : String) (default : Binary64) : Except ValueError Binary64 :=
  if isUnset text then .ok default
  else
    match Numeral.float? text with
    | some x => .ok x
    | none => .error (.invalidNumber name text)

/-- The variables that go before values, and the names of those values. -/
def overrides : List (String × String) :=
  [("port", "JAVALINT_PORT"), ("read_timeout", "JAVALINT_READ_TIMEOUT_S"),
    ("jdk_home", "JAVALINT_JDK_HOME")]

/-- The text that counts for a name: that of its variable, if it has one that is set. -/
def effective (environment values : Values) (name : String) : String :=
  match (overrides.lookup name).bind fun key => List.lookup key environment with
  | some override => if isUnset override then text values name else override
  | none => text values name

/-- The settings that values and the environment give. -/
def ofValues (environment values : Values) : Except ValueError Settings := do
  let get := effective environment values
  let port ← readPort (get "port")
  let readTimeout ← readSeconds "read_timeout" (get "read_timeout") defaultReadTimeout
  let compileTimeout ← readSeconds "compile_timeout" (get "compile_timeout") defaultCompileTimeout
  let jdkHome := trimmedOr (get "jdk_home") ""
  return {
    host := trimmedOr (get "host") defaultHost
    port, readTimeout, compileTimeout
    classpath := get "classpath"
    jdkHome := if jdkHome = "" then none else some jdkHome
    logLevel := String.ofList (upper (trimmedOr (get "log_level") defaultLogLevel).toList) }

end Settings

end LintDaemon
