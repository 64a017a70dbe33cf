/-!
# Faults of the system

Why a file cannot be found or read, or a port not be taken. Faults of the file system itself come with their numbers.
-/

namespace EventFeed

inductive SystemFault where
  | noSuchFile
  | inputOutput
  | permissionDenied
  | notDirectory
  | isDirectory
  | nameTooLong
  | tooManyLinks
  | addressInUse
  | zeroInName
  /-- The bytes of a file are no text. -/
  | invalidText
  /-- Told in the system's own words. -/
  | other (text : String)
  deriving DecidableEq, Repr

def SystemFault.message : SystemFault → String
  | .noSuchFile => "No such file or directory (os error 2)"
  | .inputOutput => "Input/output error (os error 5)"
  | .permissionDenied => "Permission denied (os error 13)"
  | .notDirectory => "Not a directory (os error 20)"
  | .isDirectory => "Is a directory (os error 21)"
  | .nameTooLong => "File name too long (os error 36)"
  | .tooManyLinks => "Too many levels of symbolic links (os error 40)"
  | .addressInUse => "Address already in use (os error 98)"
  | .zeroInName => "file name contained an unexpected NUL byte"
  | .invalidText => "stream did not contain valid UTF-8"
  | .other text => text

/-- The fault of a number; for one that is not known, in the given words. -/
def SystemFault.ofNumber (number : Nat) (words : String) : SystemFault :=
  match number with
  | 2 => .noSuchFile
  | 5 => .inputOutput
  | 13 => .permissionDenied
  | 20 => .notDirectory
  | 21 => .isDirectory
  | 36 => .nameTooLong
  | 40 => .tooManyLinks
  | 98 => .addressInUse
  | number => .other (words ++ " (os error " ++ toString number ++ ")")

end EventFeed
