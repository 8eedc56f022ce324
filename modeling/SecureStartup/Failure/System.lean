import SecureStartup.Value.Text

/-!
  What the operating system answers when it refuses.

  A refusal has a number and a text; the number decides the kind of error that callers tell apart
  (`systemKind`).  The kinds are all kinds of one, so a caller that is ready for a refusal of the system
  is ready for each of them (`systemKinds`).
-/

namespace SecureStartup

/-- Why an operation on a path was refused. -/
inductive Refusal where
  | notPermitted
  | noEntry
  | inputOutput
  | noDevice
  | denied
  | exists
  | notDirectory
  | isDirectory
  | noSpace
  | nameTooLong
  | notEmpty
  | tooManyLinks
  deriving DecidableEq, Inhabited, Repr

namespace Refusal

/-- The number of a refusal. -/
def code : Refusal → Nat
  | notPermitted => 1
  | noEntry => 2
  | inputOutput => 5
  | noDevice => 6
  | denied => 13
  | «exists» => 17
  | notDirectory => 20
  | isDirectory => 21
  | noSpace => 28
  | nameTooLong => 36
  | notEmpty => 39
  | tooManyLinks => 40

/-- The text of a refusal. -/
def text : Refusal → String
  | notPermitted => "Operation not permitted"
  | noEntry => "No such file or directory"
  | inputOutput => "Input/output error"
  | noDevice => "No such device or address"
  | denied => "Permission denied"
  | «exists» => "File exists"
  | notDirectory => "Not a directory"
  | isDirectory => "Is a directory"
  | noSpace => "No space left on device"
  | nameTooLong => "File name too long"
  | notEmpty => "Directory not empty"
  | tooManyLinks => "Too many levels of symbolic links"

end Refusal

/-- The kind of a system error by its number; numbers without a kind of their own are plain. -/
def systemKind (code : Int) : String :=
  match code with
  | 1 | 13 => "PermissionError"
  | 2 => "FileNotFoundError"
  | 3 => "ProcessLookupError"
  | 4 => "InterruptedError"
  | 10 => "ChildProcessError"
  | 11 | 114 | 115 => "BlockingIOError"
  | 17 => "FileExistsError"
  | 20 => "NotADirectoryError"
  | 21 => "IsADirectoryError"
  | 32 | 108 => "BrokenPipeError"
  | 103 => "ConnectionAbortedError"
  | 104 => "ConnectionResetError"
  | 110 => "TimeoutError"
  | 111 => "ConnectionRefusedError"
  | _ => "OSError"

/-- The kinds of system errors. -/
def systemKinds : List String :=
  ["OSError", "PermissionError", "FileNotFoundError", "ProcessLookupError", "InterruptedError",
   "ChildProcessError", "BlockingIOError", "FileExistsError", "NotADirectoryError",
   "IsADirectoryError", "BrokenPipeError", "ConnectionAbortedError", "ConnectionResetError",
   "TimeoutError", "ConnectionRefusedError", "ConnectionError", "IOError", "EnvironmentError"]

end SecureStartup
