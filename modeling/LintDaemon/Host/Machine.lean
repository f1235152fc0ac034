import LintDaemon.Host.FileSystem
import LintDaemon.Number.Binary64
import LintDaemon.Text.Blank

/-!
# The machine

What the program sees of the machine it runs on: files, variables, the directory it was started
in, home directories, and what takes time.

* `Machine.envValue?`: a variable of the environment.
* `Machine.expandHome`: a path that begins at a home directory.

Scope: one machine is what a single step sees. Nobody else changes its files or variables while the
step goes on. Which name the next temporary directory gets is given.
-/

namespace LintDaemon

open LintDaemon.Text

/-- The machine as the program sees it. -/
structure Machine where
  /-- The files. -/
  files : FileSystem
  /-- The directory in which the program was started. -/
  directory : Place
  /-- The variables of the environment. -/
  environment : List (String × String)
  /-- The home directories of the accounts. -/
  homes : List (String × String)
  /-- The account under which the program runs. -/
  account : String
  /-- The settings file of the user. -/
  settingsFile : Path
  /-- The path of the next temporary directory. -/
  freshDirectory : String
  /-- Whether a program that is started does not end in time. -/
  neverEnds : Bool
  /-- For how many seconds a daemon that is started runs. -/
  uptime : Binary64

namespace Machine

/-- The value of a variable of the environment. -/
def envValue? (m : Machine) (name : String) : Option String :=
  m.environment.lookup name

/-- The path of a home directory, without the slashes at its end. -/
def homeText (home : String) : String :=
  let stem := dropEndWhile (· == '/') home.toList
  if stem.isEmpty then "/" else String.ofList stem

/-- The home directory that the first part of a path names: a tilde stands for the home of the
user, with a name behind it for the home of that account. -/
def homeOf? (m : Machine) (part : String) : Option String :=
  let home :=
    match part.toList with
    | ['~'] => (m.envValue? "HOME").or (m.homes.lookup m.account)
    | '~' :: name => m.homes.lookup (String.ofList name)
    | _ => none
  (home.map homeText).filter fun text => text.toList.head? != some '~'

/-- Why a path that begins at a home directory leads nowhere. -/
inductive HomeError
  /-- No home directory is known. -/
  | unknown
  /-- The name of the account holds a character that no name may hold. -/
  | embeddedNul
  deriving DecidableEq, Repr

/-- A path with the home directory put in the place of its first part, if that begins with a
tilde. -/
def expandHome (m : Machine) (p : Path) : Except HomeError Path :=
  match p.root, p.parts with
  | "", part :: rest =>
    if part.toList.head? = some '~' then
      if FileSystem.holdsNul part then .error .embeddedNul
      else
        match m.homeOf? part with
        | some home => .ok ((Path.ofString home).join rest)
        | none => .error .unknown
    else .ok p
  | _, _ => .ok p

end Machine

end LintDaemon
