import ChartManifests.Text.Quoted
/-!
Why a file, a directory or a program cannot be reached or used.
-/

namespace ChartManifests

inductive FileFault
  | notPermitted
  | missing
  | noDevice
  | tooManyArguments
  | badFormat
  | badDescriptor
  | denied
  | occupied
  | notDirectory
  | isDirectory
  | improper
  | noSpace
  | brokenPipe
  | nameTooLong
  | notEmpty
  | tooManyLinks
  | other (number : Nat) (wording : String)
deriving DecidableEq, Repr

namespace FileFault

def number : FileFault → Nat
  | notPermitted => 1
  | missing => 2
  | noDevice => 6
  | tooManyArguments => 7
  | badFormat => 8
  | badDescriptor => 9
  | denied => 13
  | occupied => 17
  | notDirectory => 20
  | isDirectory => 21
  | improper => 22
  | noSpace => 28
  | brokenPipe => 32
  | nameTooLong => 36
  | notEmpty => 39
  | tooManyLinks => 40
  | other number _ => number

def wording : FileFault → String
  | notPermitted => "Operation not permitted"
  | missing => "No such file or directory"
  | noDevice => "No such device or address"
  | tooManyArguments => "Argument list too long"
  | badFormat => "Exec format error"
  | badDescriptor => "Bad file descriptor"
  | denied => "Permission denied"
  | occupied => "File exists"
  | notDirectory => "Not a directory"
  | isDirectory => "Is a directory"
  | improper => "Invalid argument"
  | noSpace => "No space left on device"
  | brokenPipe => "Broken pipe"
  | nameTooLong => "File name too long"
  | notEmpty => "Directory not empty"
  | tooManyLinks => "Too many levels of symbolic links"
  | other _ wording => wording

def brief (fault : FileFault) : String :=
  "[Errno " ++ toString fault.number ++ "] " ++ fault.wording

def message (fault : FileFault) (name : Text) : String :=
  fault.brief ++ ": " ++ Text.quoted name

end FileFault

end ChartManifests
