/-!
# File faults

The ways in which reading or writing a file can fail.
-/

namespace SwiftLinter

/-- Why a file could not be read or written. -/
inductive FileFault where
  /-- Nothing exists under the path. -/
  | notFound
  /-- The path leads to a directory where a file is needed. -/
  | isDirectory
  /-- The path leads through a regular file. -/
  | notDirectory
  /-- A regular file stands where a directory is to be made. -/
  | alreadyExists
  /-- The contents are not valid UTF-8. -/
  | notText
  /-- The path, or a name in it, is longer than the system takes. -/
  | tooLong
  /-- The path holds a null character, which no name can. -/
  | nullCharacter
  deriving DecidableEq

namespace FileFault

/-- A short description of a fault. -/
def message : FileFault → String
  | notFound => "no such file or directory"
  | isDirectory => "is a directory"
  | notDirectory => "not a directory"
  | alreadyExists => "file exists"
  | notText => "not valid UTF-8"
  | tooLong => "file name too long"
  | nullCharacter => "null character in the path"

end FileFault

end SwiftLinter
