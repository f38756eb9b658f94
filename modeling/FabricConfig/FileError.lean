/-!
# File errors

Why a file cannot be read or written.
-/

namespace FabricConfig

/-- Why a file cannot be read or written. -/
inductive FileError where
  | notFound
  | notADirectory
  | isADirectory
  | nameTooLong
  /-- The content of the file is no text in UTF-8. -/
  | notText
  /-- The path holds a NUL character. -/
  | nulInPath
  /-- Any other cause, in the words of the operating system. -/
  | other (reason : String)
deriving DecidableEq, Repr

/-- The wording of a file error. -/
def FileError.message : FileError → String
  | .notFound => "No such file or directory (os error 2)"
  | .notADirectory => "Not a directory (os error 20)"
  | .isADirectory => "Is a directory (os error 21)"
  | .nameTooLong => "File name too long (os error 36)"
  | .notText => "stream did not contain valid UTF-8"
  | .nulInPath => "file name contained an unexpected NUL byte"
  | .other reason => reason

end FabricConfig
