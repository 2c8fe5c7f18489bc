/-!
# Kinds of faults

What sort of fault it is, as far as callers tell faults apart, and how a kind is
worded that stands alone.
-/

namespace Baseline

/-- What sort of fault it is. -/
inductive FaultKind
  | addressInUse
  | addressNotAvailable
  | alreadyExists
  | argumentListTooLong
  | brokenPipe
  | connectionAborted
  | connectionRefused
  | connectionReset
  | crossesDevices
  | deadlock
  | directoryNotEmpty
  | executableBusy
  | fileTooLarge
  | filesystemLoop
  | hostUnreachable
  | inProgress
  | interrupted
  | invalidData
  | invalidFilename
  | invalidInput
  | isADirectory
  | networkDown
  | networkUnreachable
  | notADirectory
  | notConnected
  | notFound
  | notSeekable
  | other
  | outOfMemory
  | permissionDenied
  | quotaExceeded
  | readOnlyFilesystem
  | resourceBusy
  | staleFileHandle
  | storageFull
  | timedOut
  | tooManyLinks
  | uncategorized
  | unexpectedEnd
  | unsupported
  | wouldBlock
  | writeZero
deriving DecidableEq

/-- The wording of a kind that stands alone. -/
def FaultKind.message : FaultKind → String
  | .addressInUse => "address in use"
  | .addressNotAvailable => "address not available"
  | .alreadyExists => "entity already exists"
  | .argumentListTooLong => "argument list too long"
  | .brokenPipe => "broken pipe"
  | .connectionAborted => "connection aborted"
  | .connectionRefused => "connection refused"
  | .connectionReset => "connection reset"
  | .crossesDevices => "cross-device link or rename"
  | .deadlock => "deadlock"
  | .directoryNotEmpty => "directory not empty"
  | .executableBusy => "executable file busy"
  | .fileTooLarge => "file too large"
  | .filesystemLoop => "filesystem loop or indirection limit (e.g. symlink loop)"
  | .hostUnreachable => "host unreachable"
  | .inProgress => "in progress"
  | .interrupted => "operation interrupted"
  | .invalidData => "invalid data"
  | .invalidFilename => "invalid filename"
  | .invalidInput => "invalid input parameter"
  | .isADirectory => "is a directory"
  | .networkDown => "network down"
  | .networkUnreachable => "network unreachable"
  | .notADirectory => "not a directory"
  | .notConnected => "not connected"
  | .notFound => "entity not found"
  | .notSeekable => "seek on unseekable file"
  | .other => "other error"
  | .outOfMemory => "out of memory"
  | .permissionDenied => "permission denied"
  | .quotaExceeded => "quota exceeded"
  | .readOnlyFilesystem => "read-only filesystem or storage medium"
  | .resourceBusy => "resource busy"
  | .staleFileHandle => "stale network file handle"
  | .storageFull => "no storage space"
  | .timedOut => "timed out"
  | .tooManyLinks => "too many links"
  | .uncategorized => "uncategorized error"
  | .unexpectedEnd => "unexpected end of file"
  | .unsupported => "unsupported"
  | .wouldBlock => "operation would block"
  | .writeZero => "write zero"

end Baseline
