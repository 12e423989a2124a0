import RecordLayer.CommandLine.Response
import RecordLayer.KeyAgreement

/-!
# The program

Fresh keys and randoms come from the system, and the key log is appended to
its file.  Everything else is decided by `CommandLine.respond`.
-/

namespace RecordLayer.Program

/-- Fresh random bytes. -/
def freshBytes : IO Bytes := do
  return (← IO.getRandomBytes 32).toList

/-- Append the key log of a call to its file. -/
def appendLog (path : String) (text : String) : IO Unit :=
  IO.FS.withFile path .append fun file => file.putStr text

/-- Why the file at a path cannot be used. -/
def fileError? (path : String) : IO.Error → Option FileError
  | .noFileOrDirectory .. => some (.missing path)
  | .permissionDenied .. => some (.denied path)
  | .inappropriateType _ 20 _ => some (.notDirectory path)
  | .inappropriateType .. => some (.isDirectory path)
  | _ => none

/-- Answer a call and write its key log.  A log that cannot be written fails
the call where it would first have been used. -/
def answer (secrets : CommandLine.Secrets) (arguments : List String) :
    IO CommandLine.Response := do
  let response := CommandLine.respond x25519 secrets (fun _ => none) arguments
  let path? := match CommandLine.parse arguments with
    | .ok options => options.keyLogPath?
    | .error _ => none
  match path?, response.log.text? with
  | some path, some text =>
    try
      appendLog path text
      return response
    catch error =>
      match fileError? path error with
      | some fault => return CommandLine.respond x25519 secrets (fun _ => some fault) arguments
      | none => throw error
  | _, _ => return response

/-- Answer a call from the command line. -/
def run (arguments : List String) : IO UInt32 := do
  let response ← answer
    { clientKey := ← freshBytes, serverKey := ← freshBytes,
      clientRandom := ← freshBytes, serverRandom := ← freshBytes } arguments
  IO.print response.clientOutput
  IO.print response.output
  IO.eprint response.errorOutput
  match response.ending with
  | .code n => return UInt32.ofNat n
  | .failure error =>
    IO.eprintln error.message
    return 1

end RecordLayer.Program

/-- The program. -/
def main (arguments : List String) : IO UInt32 :=
  RecordLayer.Program.run arguments
