import RpcBindings.Text.Bytes

/-!
# Faults of file calls (SPEC §7)

A call on the file system that fails names itself, the path or paths it was given, and the reason.
-/

set_option autoImplicit false

namespace RpcBindings.File

/-- The calls that can fail. -/
inductive Call where
  | «open»
  | stat
  | mkdir
  | write
  | close
  | chmod
  | rename
  | link
  deriving DecidableEq, Repr, Inhabited

/-- The name of a call. -/
def Call.name : Call → Bytes
  | .open => "open"
  | .stat => "stat"
  | .mkdir => "mkdir"
  | .write => "write"
  | .close => "close"
  | .chmod => "chmod"
  | .rename => "rename"
  | .link => "link"

/-- Why a call fails. -/
inductive Reason where
  | notFound
  | notDirectory
  | exists
  | nameTooLong
  | invalid
  | tooManyLinks
  | noSpace
  | deviceError
  | notPermitted
  deriving DecidableEq, Repr, Inhabited

/-- The wording of a reason. -/
def Reason.message : Reason → Bytes
  | .notFound => "no such file or directory"
  | .notDirectory => "not a directory"
  | .exists => "file exists"
  | .nameTooLong => "file name too long"
  | .invalid => "invalid argument"
  | .tooManyLinks => "too many levels of symbolic links"
  | .noSpace => "no space left on device"
  | .deviceError => "input/output error"
  | .notPermitted => "operation not permitted"

/-- A call that failed. -/
structure Fault where
  call : Call
  /-- The path the call was given, or both of them. -/
  paths : List Bytes
  reason : Reason
  deriving DecidableEq, Repr, Inhabited

/-- The wording of a fault. -/
def Fault.message (f : Fault) : Bytes :=
  f.call.name ++ " " ++ Bytes.join " " f.paths ++ ": " ++ f.reason.message

end RpcBindings.File
