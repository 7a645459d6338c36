/-!
# Files that cannot be read
-/

namespace Toolbench

namespace Files

/-- Why the text of a file cannot be had. -/
inductive Fault where
  | missing
  /-- Something on the way to the file is no directory. -/
  | noDirectory
  | isDirectory
  | nameTooLong
  | zeroByte
  /-- The bytes of the file are no UTF-8. -/
  | noText
deriving DecidableEq

def Fault.message : Fault → String
  | missing => "No such file or directory (os error 2)"
  | noDirectory => "Not a directory (os error 20)"
  | isDirectory => "Is a directory (os error 21)"
  | nameTooLong => "File name too long (os error 36)"
  | zeroByte => "file name contained an unexpected NUL byte"
  | noText => "stream did not contain valid UTF-8"

end Files

end Toolbench
