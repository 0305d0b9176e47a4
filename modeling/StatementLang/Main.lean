import StatementLang.CommandLine.Run

/-!
# The Program

The program reads the file that its arguments name, and its log specification from the environment.
-/

namespace StatementLang.CommandLine

def Invocation.path? (invocation : Invocation) : Option String :=
  match invocation.command with
  | .parse file => file
  | .check file => some file
  | .tokens file => some file
  | .ast file => some file
  | .version => none

/-- The number of a failure of the system, which may be given negated. -/
def failureNumber (code : UInt32) : UInt32 := min code (0 - code)

/-- The reason behind a failure of the system. -/
def fileError : IO.Error → FileError
  | .inappropriateType _ code _ => if failureNumber code = 20 then .notFolder else .isFolder
  | .invalidArgument _ code _ => if failureNumber code = 36 then .nameTooLong else .missing
  | _ => .missing

def readFile (path : String) : IO (Except FileError String) := do
  try
    return Directory.textOf (← IO.FS.readBinFile path)
  catch error =>
    return .error (fileError error)

end StatementLang.CommandLine

open StatementLang.CommandLine in
def main (arguments : List String) : IO UInt32 := do
  let path? := (Invocation.ofArguments arguments).toOption.bind Invocation.path?
  let content ←
    match path? with
    | some path => readFile path
    | none => pure (.error .missing)
  let outcome := run (fun _ ↦ content) (← IO.getEnv "RUST_LOG") arguments
  (← IO.getStdout).putStr outcome.output
  (← IO.getStderr).putStr outcome.errors
  return outcome.code.toUInt32
