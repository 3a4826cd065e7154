import CiMessage.IoError

/-!
# Failures of a disk
-/

namespace CiMessage

/-- What an operation on a disk fails with. -/
inductive Disk.Fault where
  | noEntry
  | alreadyThere
  | notDirectory
  | isDirectory
  | noSpace
  | nameTooLong
  | tooManyLinks
  /-- The path holds a NUL, so that the system cannot be asked. -/
  | nulInPath
  deriving DecidableEq

namespace Disk.Fault

/-- The failure that is reported; those of the system have its wording and its number. -/
def toIoError : Fault → IoError
  | noEntry => ⟨.notFound, "No such file or directory (os error 2)"⟩
  | alreadyThere => ⟨.alreadyExists, "File exists (os error 17)"⟩
  | notDirectory => ⟨.notADirectory, "Not a directory (os error 20)"⟩
  | isDirectory => ⟨.isADirectory, "Is a directory (os error 21)"⟩
  | noSpace => ⟨.storageFull, "No space left on device (os error 28)"⟩
  | nameTooLong => ⟨.invalidFilename, "File name too long (os error 36)"⟩
  | tooManyLinks => ⟨.filesystemLoop, "Too many levels of symbolic links (os error 40)"⟩
  | nulInPath => ⟨.invalidInput, "file name contained an unexpected NUL byte"⟩

end Disk.Fault

end CiMessage
