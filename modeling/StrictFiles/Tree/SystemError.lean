/-!
Why the system refuses to open, read, create or run a file.
-/

namespace StrictFiles

inductive SystemError
  | notFound
  | badFormat
  | permissionDenied
  | alreadyExists
  | notADirectory
  | isADirectory
  | nameTooLong
  | tooManyLinks
  /-- A path with a zero byte never reaches the system. -/
  | zeroInPath
  /-- Nor does a command with one. -/
  | zeroInCommand
  /-- The content was read, but is no text. -/
  | notText
  deriving DecidableEq

def SystemError.message : SystemError → String
  | .notFound => "No such file or directory (os error 2)"
  | .badFormat => "Exec format error (os error 8)"
  | .permissionDenied => "Permission denied (os error 13)"
  | .alreadyExists => "File exists (os error 17)"
  | .notADirectory => "Not a directory (os error 20)"
  | .isADirectory => "Is a directory (os error 21)"
  | .nameTooLong => "File name too long (os error 36)"
  | .tooManyLinks => "Too many levels of symbolic links (os error 40)"
  | .zeroInPath => "file name contained an unexpected NUL byte"
  | .zeroInCommand => "nul byte found in provided data"
  | .notText => "stream did not contain valid UTF-8"

end StrictFiles
