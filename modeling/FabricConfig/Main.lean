import FabricConfig.CommandLine.Run
/-!
# The program

Runs a command on the files of the operating system.
-/

namespace FabricConfig.CommandLine

/-- The number and the words that the operating system gives for an error. -/
def systemCause? : IO.Error → Option (UInt32 × String)
  | .noFileOrDirectory _ code details => some (code, details)
  | .interrupted _ code details => some (code, details)
  | .alreadyExists _ code details => some (code, details)
  | .invalidArgument _ code details => some (code, details)
  | .permissionDenied _ code details => some (code, details)
  | .resourceExhausted _ code details => some (code, details)
  | .inappropriateType _ code details => some (code, details)
  | .noSuchThing _ code details => some (code, details)
  | .otherError code details => some (code, details)
  | .resourceBusy code details => some (code, details)
  | .resourceVanished code details => some (code, details)
  | .unsupportedOperation code details => some (code, details)
  | .hardwareFault code details => some (code, details)
  | .unsatisfiedConstraints code details => some (code, details)
  | .illegalOperation code details => some (code, details)
  | .protocolError code details => some (code, details)
  | .timeExpired code details => some (code, details)
  | .unexpectedEof => none
  | .userError _ => none

/-- The number of an error, which may be given with its sign changed. -/
def errorNumber (code : UInt32) : UInt32 := if code < 0x80000000 then code else 0 - code

/-- The file error that an error of the operating system is. -/
def fileError (error : IO.Error) : FileError :=
  match systemCause? error with
  | none => .other (toString error)
  | some (code, details) =>
    match errorNumber code with
    | 2 => .notFound
    | 20 => .notADirectory
    | 21 => .isADirectory
    | 36 => .nameTooLong
    | number => .other s!"{details} (os error {number})"

/-- The bytes of a file. -/
def readBytes (path : String) : IO (Except FileError ByteArray) := do
  if path.toList.contains '\x00' then return .error .nulInPath
  else
    let bytes ← (IO.FS.readBinFile path).toBaseIO
    return bytes.mapError fileError

/-- The files of the operating system. -/
def systemFiles : FileAccess IO where
  isFile path := do return (← readBytes path) matches .ok _
  isDirectory path := do return (← readBytes path) matches .error .isADirectory
  read path := do
    match ← readBytes path with
    | .error reason => return .error reason
    | .ok bytes =>
      match String.fromUTF8? bytes with
      | some text => return .ok text
      | none => return .error .notText
  write path text := do
    if path.toList.contains '\x00' then return .error .nulInPath
    else
      let written ← (IO.FS.writeFile path text).toBaseIO
      return written.mapError fileError

/-- Runs a command and prints what it tells; the outcome is its exit code. -/
def execute (arguments : Arguments) : IO UInt32 := do
  let terminal ← (← IO.getStderr).isTty
  let result ← run systemFiles terminal arguments
  IO.print result.stdout
  IO.eprint result.stderr
  return UInt32.ofNat result.exitCode

end FabricConfig.CommandLine

/-- Runs the command that the arguments name. -/
def main (arguments : List String) : IO UInt32 := do
  match FabricConfig.CommandLine.parse? arguments with
  | some accepted => FabricConfig.CommandLine.execute accepted
  | none =>
    IO.eprintln "error: unexpected arguments"
    return UInt32.ofNat FabricConfig.CommandLine.usageExitCode
