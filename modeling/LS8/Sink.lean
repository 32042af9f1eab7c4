-- Where the machine writes its output. A sink takes everything, or it takes a
-- fixed number of bytes and is then full for good. A full sink keeps the part
-- of a line that still fitted.

import LS8.Byte

namespace LS8

/-- Why a full sink refuses a write. A write that is merely interrupted is tried again, so that is
no reason. -/
inductive SinkFailure
  | notFound
  | permissionDenied
  | connectionRefused
  | connectionReset
  | hostUnreachable
  | networkUnreachable
  | connectionAborted
  | notConnected
  | addressInUse
  | addressNotAvailable
  | networkDown
  | brokenPipe
  | alreadyExists
  | wouldBlock
  | notADirectory
  | isADirectory
  | directoryNotEmpty
  | readOnly
  | linksGoRound
  | staleFileHandle
  | invalidInput
  | invalidData
  | timedOut
  | wroteNothing
  | storageFull
  | notSeekable
  | quotaExceeded
  | fileTooLarge
  | resourceBusy
  | executableBusy
  | deadlock
  | crossesDevices
  | tooManyLinks
  | invalidFileName
  | argumentListTooLong
  | unsupported
  | unexpectedEnd
  | outOfMemory
  | inProgress
  | other
  | uncategorized
  deriving DecidableEq

def SinkFailure.message : SinkFailure → String
  | .notFound => "entity not found"
  | .permissionDenied => "permission denied"
  | .connectionRefused => "connection refused"
  | .connectionReset => "connection reset"
  | .hostUnreachable => "host unreachable"
  | .networkUnreachable => "network unreachable"
  | .connectionAborted => "connection aborted"
  | .notConnected => "not connected"
  | .addressInUse => "address in use"
  | .addressNotAvailable => "address not available"
  | .networkDown => "network down"
  | .brokenPipe => "broken pipe"
  | .alreadyExists => "entity already exists"
  | .wouldBlock => "operation would block"
  | .notADirectory => "not a directory"
  | .isADirectory => "is a directory"
  | .directoryNotEmpty => "directory not empty"
  | .readOnly => "read-only filesystem or storage medium"
  | .linksGoRound => "filesystem loop or indirection limit (e.g. symlink loop)"
  | .staleFileHandle => "stale network file handle"
  | .invalidInput => "invalid input parameter"
  | .invalidData => "invalid data"
  | .timedOut => "timed out"
  | .wroteNothing => "write zero"
  | .storageFull => "no storage space"
  | .notSeekable => "seek on unseekable file"
  | .quotaExceeded => "quota exceeded"
  | .fileTooLarge => "file too large"
  | .resourceBusy => "resource busy"
  | .executableBusy => "executable file busy"
  | .deadlock => "deadlock"
  | .crossesDevices => "cross-device link or rename"
  | .tooManyLinks => "too many links"
  | .invalidFileName => "invalid filename"
  | .argumentListTooLong => "argument list too long"
  | .unsupported => "unsupported"
  | .unexpectedEnd => "unexpected end of file"
  | .outOfMemory => "out of memory"
  | .inProgress => "in progress"
  | .other => "other error"
  | .uncategorized => "uncategorized error"

/-- How much a sink still takes. -/
inductive Capacity
  | unlimited
  | limited (room : Nat) (failure : SinkFailure)
  deriving DecidableEq

structure Sink where
  /-- Everything taken so far. -/
  text : String := ""
  capacity : Capacity := .unlimited
  deriving DecidableEq

namespace Sink

/-- Writes a line. The machine writes ASCII only, so a character takes one byte of room. -/
def write (s : Sink) (line : String) : Except SinkFailure Unit × Sink :=
  match s.capacity with
  | .unlimited => (.ok (), { s with text := s.text ++ line })
  | .limited room failure =>
    if line.length ≤ room then
      (.ok (), { text := s.text ++ line, capacity := .limited (room - line.length) failure })
    else
      (.error failure,
        { text := s.text ++ String.ofList (line.toList.take room), capacity := .limited 0 failure })

/-- The same sink with its text taken away. -/
def drained (s : Sink) : Sink := { s with text := "" }

/-! ## What a write does -/

theorem write_unlimited (text line : String) :
    write ⟨text, .unlimited⟩ line = (.ok (), ⟨text ++ line, .unlimited⟩) := rfl

theorem write_of_fits {text line : String} {room : Nat} {failure : SinkFailure}
    (h : line.length ≤ room) :
    write ⟨text, .limited room failure⟩ line =
      (.ok (), ⟨text ++ line, .limited (room - line.length) failure⟩) := by
  simp [write, h]

theorem write_of_overflows {text line : String} {room : Nat} {failure : SinkFailure}
    (h : room < line.length) :
    write ⟨text, .limited room failure⟩ line =
      (.error failure,
        ⟨text ++ String.ofList (line.toList.take room), .limited 0 failure⟩) := by
  simp [write, Nat.not_le.mpr h]

end Sink

end LS8
