import FlightLink.CommandLine
import FlightLink.Live

/-! The program. Its argument, if there is one, is the path of a settings file. -/

namespace FlightLink.CommandLine

/-- The content of a file, or why there is none. -/
def fileContent (path : String) : IO (Except PathFault ByteArray) := do
  try
    return .ok (← (← IO.FS.Handle.mk path .read).readBinToEnd)
  catch error => return .error (Live.pathFault error)

/-- Runs until the user interrupts. -/
def runSession (settings : Settings) : IO (Option Failure) := do
  let live ← Live.create settings.level settings.version
  match ← live.run (start settings) with
  | .error failure => return some failure
  | .ok vehicle =>
    Live.awaitInterrupt
    live.run (finish vehicle)
    return none

end FlightLink.CommandLine

open FlightLink

def main (arguments : List String) : IO UInt32 := do
  let file ← arguments.head?.mapM fun path => return (path, ← CommandLine.fileContent path)
  let failure ← match CommandLine.settings file with
    | .error failure => pure (some failure)
    | .ok settings => CommandLine.runSession settings
  match failure with
  | none => return 0
  | some failure =>
    IO.eprint failure.text
    return 1
