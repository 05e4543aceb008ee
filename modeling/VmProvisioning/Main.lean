import Std.Time
import VmProvisioning.CommandLine.Program

/-!
# The command line

Reads arguments, variables and files, carries out the command and prints its outcome. Nothing here
reaches a cluster over a network: every request to one ends as a refused connection.

## Main definitions

* `main`: the program
-/

namespace VmProvisioning.CommandLine

/-- The variables of the environment that options fall back on. -/
def readVariables : IO (Fields String) := do
  let entries ← (commonSwitches.filterMap Switch.fallback).filterMapM fun name => do
    return (← IO.getEnv name).map fun value => (name, value)
  return Fields.ofList entries

/-- The contents of those files that can be read. -/
def readFiles (paths : List String) : IO (Fields String) := do
  let entries ← paths.filterMapM fun (path : String) => do
    try
      let text ← IO.FS.readFile path
      return some (path, text)
    catch _ => return none
  return Fields.ofList entries

/-- The file that gives access to a cluster when no other one is named. -/
def usualKubeconfig : IO (Option String) := do
  return (← IO.getEnv "HOME").map (· ++ "/.kube/config")

/-- The time as a timestamp. -/
def currentTime : IO String := do
  let seconds := (← Std.Time.Timestamp.now).toSecondsSinceUnixEpoch.val
  return Timestamp.write (Timestamp.ofUnixSeconds seconds)

/-- How the program is used. -/
def usageText : String :=
  let commands := commandLevels.map fun (name, _) => "  " ++ name ++ "\n"
  "Usage: " ++ Program.name ++ " [OPTIONS] <COMMAND>\n\nCommands:\n" ++ String.join commands

/-- Carry out an invocation and print how it ends. -/
def carryOut (invocation : Invocation) : IO UInt32 := do
  let kubeconfig ← usualKubeconfig
  let files ← readFiles (Program.filesOf invocation ++ kubeconfig.toList)
  let place : Place := {
    contents := Fields.get? files
    kubeconfig
    answer := fun _ => .disconnected "connection refused"
    now := ← currentTime
    seed := UInt32.ofNat (← IO.rand 0 (UInt32.size - 1)) }
  match Program.run place invocation with
  | .ok outcome =>
    IO.print (Program.print outcome)
    return 0
  | .error fault =>
    IO.eprintln ("Error: " ++ fault.message)
    return 1

end VmProvisioning.CommandLine

open VmProvisioning VmProvisioning.CommandLine in
/-- **The program.** It exits with zero when the command has been carried out or help or the
version has been given, with one when the command has failed, and with two when the usage is
wrong. -/
def main (arguments : List String) : IO UInt32 := do
  match CommandLine.read (← readVariables) arguments with
  | .ok invocation => carryOut invocation
  | .error .help =>
    IO.print usageText
    return 0
  | .error .version =>
    IO.print (Program.print Program.versionOutcome)
    return 0
  | .error .usage =>
    IO.eprint usageText
    return 2
