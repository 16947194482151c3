import RpcBindings.Command.Log
import RpcBindings.File.Disk

/-!
# Transcripts (SPEC §9, §10)

A transcript is all that a command leaves behind: how it ended, what it printed, what it told, and the
disk after it.
-/

set_option autoImplicit false

namespace RpcBindings.Command

open RpcBindings.File (Disk)

/-- All that a command leaves behind. -/
structure Transcript where
  outcome : Except Failure Unit
  stdout : Bytes
  events : List Event
  disk : Disk

namespace Transcript

/-- A command that failed and left nothing behind but the disk. -/
def failed (f : Failure) (d : Disk) : Transcript := ⟨.error f, [], [], d⟩

end Transcript

end RpcBindings.Command
