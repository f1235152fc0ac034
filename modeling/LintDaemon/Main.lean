import LintDaemon.CommandLine.Run

/-!
# The program

The outer layer reads arguments, variables and files, and writes what a command has to say. It has
no sockets: nobody answers a client, and the daemon cannot listen.

Scope: nothing is stated about this layer. It runs the commands of `Surroundings` on what it finds;
directories that are given as files, accounts and their home directories are not looked for.
-/

namespace LintDaemon.Program

/-- How the program is used. -/
def usageText : String :=
  "Usage: javalint COMMAND [ARGS]...\n\n" ++
  "Commands:\n" ++
  "  serve [PORT]                            run the daemon in the foreground\n" ++
  "  lint NAME FILE [--port PORT] [--json]   show what the daemon says about a file\n" ++
  "  set-classpath CLASSPATH [--port PORT]   replace the class path of the daemon\n" ++
  "  set-jdk JDK_HOME [--port PORT]          replace the installation of its compiler\n" ++
  "  kill [--port PORT]                      stop the daemon\n" ++
  "  settings [show|path]                    show the settings\n"

/-- The variables of the environment that matter. -/
def variableNames : List String :=
  ["HOME", "PATH", "JAVA_HOME", "COLUMNS", "LINES", "TERM", "COLORTERM", "TTY_COMPATIBLE",
   "FORCE_COLOR", "NO_COLOR", "JAVALINT_PORT", "JAVALINT_READ_TIMEOUT_S", "JAVALINT_JDK_HOME"]

/-- The variables that are set. -/
def readVariables : IO (List (String × String)) :=
  variableNames.filterMapM fun name => do
    return (← IO.getEnv name).map fun value => (name, value)

/-- The file at a path, if there is one that can be read. -/
def readFile? (path : String) : IO (Option Node) := do
  try
    let bytes ← IO.FS.readBinFile path
    return some (.file bytes.toList false none)
  catch _ => return none

/-- The place of a path below a directory. -/
def placeBelow (directory : Place) (path : String) : Place :=
  let p := Path.ofString path
  if p.root = "" then directory ++ p.parts else p.parts

/-- The files at paths. -/
def readFiles (directory : Place) (paths : List String) : IO FileSystem :=
  paths.foldlM (fun files path => do
    match ← readFile? path with
    | some node => return files.insertDeep (placeBelow directory path) node
    | none => return files) ⟨[]⟩

/-- The fault of a machine without sockets. -/
def noSockets : SystemFault := ⟨97, "Address family not supported by protocol", none⟩

/-- What a client meets on it. -/
def noPeer : Peer := ⟨fun _ _ => .error (.system noSockets), .nobody⟩

/-- The machine that the program runs on, as far as its arguments ask for it. -/
def readMachine (args : List String) : IO Machine := do
  let environment ← readVariables
  let directory := (Path.ofString (← IO.currentDir).toString).parts
  let home := (environment.lookup "HOME").getD ""
  let settingsFile := (Path.ofString home).join [".config", "javalint", "config.cfg"]
  let files ← readFiles directory (settingsFile.toString :: Settings.envFilePath :: args)
  return {
    files, directory, environment, homes := [], account := "", settingsFile
    freshDirectory := "/tmp/javalint-0", neverEnds := false, uptime := .zero false }

/-- A text written to an output. -/
def write (output : IO.FS.Stream) : Printed → IO Unit
  | .text s => output.putStr s
  | .usage => output.putStr usageText

end LintDaemon.Program

open LintDaemon LintDaemon.Program in
/-- The program. -/
def main (args : List String) : IO UInt32 := do
  let surroundings : Surroundings :=
    { machine := ← readMachine args, peer := noPeer, binding := .fault noSockets, arrivals := [] }
  let outcome := surroundings.runCommandLine args
  write (← IO.getStdout) outcome.stdout
  write (← IO.getStderr) outcome.stderr
  match outcome.status with
  | .ok (.exited status) => return status.toUInt32
  | .ok .returned => return 0
  -- without sockets no client comes that could be waited for
  | .ok .endless => return 0
  | .error e =>
    (← IO.getStderr).putStrLn e.message
    return 1
