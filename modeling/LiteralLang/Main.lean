import LiteralLang.CommandLine.Run

/-!
# Command line program

The program on real files, standard input and output, and the environment variable that holds the
log filter.
-/

namespace LiteralLang.CommandLine

/-- The number of an error of the system, which comes as it is or negated. -/
def errorNumber (code : UInt32) : UInt32 := if code < 0x80000000 then code else 0 - code

/-- What a failed access to a file means for the run. -/
def fileFault : IO.Error → FileFault
  | .inappropriateType _ code _ => if errorNumber code = 20 then .notDirectory else .isDirectory
  | .invalidArgument _ code _ => if errorNumber code = 36 then .nameTooLong else .notFound
  | .resourceExhausted _ code _ => if errorNumber code = 28 then .noRoom else .notFound
  | .permissionDenied _ code _ => if errorNumber code = 13 then .denied else .notFound
  | .noSuchThing _ code _ => if errorNumber code = 6 then .noDevice else .notFound
  | _ => .notFound

/-- Access to real files and to standard input. -/
def realAccess : Access IO where
  readFile path := do
    try
      return textOf (← IO.FS.readBinFile path)
    catch problem => return .error (fileFault problem)
  readInput := do
    let input ← IO.getStdin
    return textOf (← input.readBinToEnd)
  writeFile path text := do
    try
      IO.FS.withFile path .write fun file => do
        file.write text.toUTF8
        file.flush
      return .ok ()
    catch problem => return .error (fileFault problem)

end LiteralLang.CommandLine

open LiteralLang.CommandLine in
/-- Runs the program and ends with its exit code. -/
def main (arguments : List String) : IO UInt32 := do
  let report ← run realAccess (← IO.getEnv "RUST_LOG") arguments
  (← IO.getStderr).putStr report.errors
  (← IO.getStdout).putStr report.output
  return report.exitCode.toUInt32
