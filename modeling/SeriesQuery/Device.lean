/-! # Faults of devices

What a file system or a byte stream answers when it cannot do what it was asked for.
-/

namespace SeriesQuery

/-- Why reading or writing fails. -/
inductive DeviceFault where
  | missing
  | occupied
  | notDirectory
  | isDirectory
  | denied
  | invalidArgument
  | nameTooLong
  | nulInPath
  | notUtf8
  | bufferFull
  | readerFailed
  /-- Any other failure of the operating system. -/
  | failed
deriving DecidableEq, Repr

namespace DeviceFault

def message : DeviceFault → String
  | missing => "No such file or directory (os error 2)"
  | denied => "Permission denied (os error 13)"
  | occupied => "File exists (os error 17)"
  | notDirectory => "Not a directory (os error 20)"
  | isDirectory => "Is a directory (os error 21)"
  | invalidArgument => "Invalid argument (os error 22)"
  | nameTooLong => "File name too long (os error 36)"
  | nulInPath => "file name contained an unexpected NUL byte"
  | notUtf8 => "stream did not contain valid UTF-8"
  | bufferFull => "failed to write whole buffer"
  | readerFailed => "reader failed"
  | failed => "Input/output error (os error 5)"

/-- The fault of an error number of the operating system. -/
def ofNumber : Nat → DeviceFault
  | 2 => missing
  | 13 => denied
  | 17 => occupied
  | 20 => notDirectory
  | 21 => isDirectory
  | 22 => invalidArgument
  | 36 => nameTooLong
  | _ => failed

/-- Whether a fault leaves open what is at a path; the others say that nothing is there. -/
def isInPlace : DeviceFault → Bool
  | missing | notDirectory | nameTooLong | nulInPath => false
  | _ => true

end DeviceFault
end SeriesQuery
