import HttpTelemetry.Demo.Run

/-!
# The demo as a program

Reads the environment and the settings file, writes the log of a run and ends with its exit code.
The run is that on a host all of whose addresses can be reached; the end of the standard input
stands for the signal to stop.
-/

set_option autoImplicit false

namespace HttpTelemetry.Program

/-- The octets of a file, if there is one that can be read. -/
def fileOctets? (path : String) : IO (Option Bytes) := do
  try
    return some (← IO.FS.readBinFile path).toList
  catch _ => return none

/-- The first of some files that can be read. -/
def firstFile? : List String → IO (Option Bytes)
  | [] => return none
  | path :: rest => do
    match ← fileOctets? path with
    | some octets => return some octets
    | none => firstFile? rest

def writeLines (output : IO.FS.Stream) (lines : List String) : IO Unit :=
  lines.forM fun line => do
    output.putStr (line ++ "\n")
    output.flush

/-- The code of a run that leaves none. -/
def abortCode : UInt8 := 134

/-- Reads lines until the input ends. -/
partial def awaitEnd (input : IO.FS.Stream) : IO Unit := do
  if (← input.getLine).isEmpty then return
  awaitEnd input

end HttpTelemetry.Program

open HttpTelemetry Program

def main : IO UInt32 := do
  let env := Config.Environment.ofBlock ((← fileOctets? "/proc/self/environ").getD [])
  let directory := (← IO.currentDir).toString
  let file ← firstFile? (Config.DotEnv.candidates directory)
  let run := Demo.Run.of Net.Host.connected env file .terminate
  let output ← IO.getStdout
  writeLines output (run.before.map run.line)
  if run.ending = .stopped then awaitEnd (← IO.getStdin)
  writeLines output (run.after.map run.line)
  return (run.ending.exitCode.getD abortCode).toUInt32
