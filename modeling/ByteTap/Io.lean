/-!
# Failures of input and output

What a transport, a file or the operating system answers when an operation fails: a kind, and a
text for people.  A failure known by its kind alone reads as the kind's own description.
-/

namespace ByteTap

/-- The kinds of input and output failure. -/
inductive IoKind where
  | addressInUse | addressNotAvailable | alreadyExists | argumentListTooLong | brokenPipe
  | connectionAborted | connectionRefused | connectionReset | crossesDevices | deadlock
  | folderNotEmpty | executableBusy | fileTooLarge | hostUnreachable | interrupted
  | invalidData | invalidFilename | invalidInput | isAFolder | linkLoop | networkDown
  | networkUnreachable | notAFolder | notConnected | notFound | notSeekable | other | outOfMemory
  | permissionDenied | quotaExceeded | readOnly | resourceBusy | staleHandle | storageFull
  | timedOut | tooManyLinks | unexpectedEnd | unsupported | wouldBlock | writeZero
  deriving DecidableEq, Repr

/-- The text of a failure of which only the kind is known. -/
def IoKind.description : IoKind → String
  | .addressInUse => "address in use"
  | .addressNotAvailable => "address not available"
  | .alreadyExists => "entity already exists"
  | .argumentListTooLong => "argument list too long"
  | .brokenPipe => "broken pipe"
  | .connectionAborted => "connection aborted"
  | .connectionRefused => "connection refused"
  | .connectionReset => "connection reset"
  | .crossesDevices => "cross-device link or rename"
  | .deadlock => "deadlock"
  | .folderNotEmpty => "directory not empty"
  | .executableBusy => "executable file busy"
  | .fileTooLarge => "file too large"
  | .hostUnreachable => "host unreachable"
  | .interrupted => "operation interrupted"
  | .invalidData => "invalid data"
  | .invalidFilename => "invalid filename"
  | .invalidInput => "invalid input parameter"
  | .isAFolder => "is a directory"
  | .linkLoop => "filesystem loop or indirection limit (e.g. symlink loop)"
  | .networkDown => "network down"
  | .networkUnreachable => "network unreachable"
  | .notAFolder => "not a directory"
  | .notConnected => "not connected"
  | .notFound => "entity not found"
  | .notSeekable => "seek on unseekable file"
  | .other => "other error"
  | .outOfMemory => "out of memory"
  | .permissionDenied => "permission denied"
  | .quotaExceeded => "quota exceeded"
  | .readOnly => "read-only filesystem or storage medium"
  | .resourceBusy => "resource busy"
  | .staleHandle => "stale network file handle"
  | .storageFull => "no storage space"
  | .timedOut => "timed out"
  | .tooManyLinks => "too many links"
  | .unexpectedEnd => "unexpected end of file"
  | .unsupported => "unsupported"
  | .wouldBlock => "operation would block"
  | .writeZero => "write zero"

/-- A failed operation: the kind of failure and its text. -/
structure IoFailure where
  kind : IoKind
  text : String
  deriving DecidableEq, Repr

/-- A failure of which only the kind is known. -/
def IoFailure.ofKind (kind : IoKind) : IoFailure := ⟨kind, kind.description⟩

end ByteTap
