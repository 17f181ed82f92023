import Phrasebook.Program

/-!
## The command

The outermost layer reads the files that the command line names, runs the program on what they hold,
and writes what it gives.  It has no network, so every fetch fails.
-/

namespace Phrasebook.Main

/-- The number of an error of the operating system, which may be given negated. -/
def errorNumber (code : UInt32) : Nat :=
  if code < 0x80000000 then code.toNat else (0 - code).toNat

/-- The fault that the file system reports. -/
def faultOf : IO.Error → ReadFault
  | .noFileOrDirectory .. => .missing
  | .permissionDenied _ _ _ => .other "Permission denied (os error 13)"
  | .inappropriateType _ code details =>
    if errorNumber code = 20 then .notDirectory
    else if errorNumber code = 21 then .directory
    else .other details
  | e => .other (toString e)

/-- What is under a path. -/
def readFile (path : String) : IO (Except ReadFault ByteArray) := do
  try
    return .ok (← IO.FS.readBinFile path)
  catch e =>
    return .error (faultOf e)

/-- The files of which the contents have been read. -/
def filesOf (contents : List (String × Except ReadFault ByteArray)) : Files := fun path =>
  (Entries.find? path contents).getD (.error .missing)

end Phrasebook.Main

open Phrasebook

/-- Runs the program on the words of the command line. -/
def main (words : List String) : IO UInt32 := do
  let contents ← (Program.paths words).mapM fun path => do
    return (path, ← Main.readFile path)
  let result := Program.run (Main.filesOf contents) Fetcher.unreachable false words
  (← IO.getStdout).putStr result.output
  for line in result.errors do
    (← IO.getStderr).putStrLn line.render
  return UInt32.ofNat result.exit
