/-!
# Faults of a byte line

Reading from a line or writing to it can fail. A `Fault` has a kind, which decides how it is
handled, and a text. Two kinds mean that a read ended without data while the line stays usable,
and two kinds make a write be tried again.
-/

namespace ControlNode.Line

/-- What went wrong, as far as the handling depends on it. -/
inductive Fault.Kind where
  | interrupted
  | wouldBlock
  | timedOut
  | brokenPipe
  | connectionReset
  | connectionAborted
  | notConnected
  | unexpectedEof
  | permissionDenied
  | notFound
  | invalidInput
  | invalidData
  | writeZero
  | alreadyExists
  | other
deriving DecidableEq, Repr

def Fault.Kind.text : Fault.Kind → String
  | .interrupted => "operation interrupted"
  | .wouldBlock => "operation would block"
  | .timedOut => "timed out"
  | .brokenPipe => "broken pipe"
  | .connectionReset => "connection reset"
  | .connectionAborted => "connection aborted"
  | .notConnected => "not connected"
  | .unexpectedEof => "unexpected end of file"
  | .permissionDenied => "permission denied"
  | .notFound => "entity not found"
  | .invalidInput => "invalid input parameter"
  | .invalidData => "invalid data"
  | .writeZero => "write zero"
  | .alreadyExists => "entity already exists"
  | .other => "other error"

/-- A failed operation on a line. -/
structure Fault where
  kind : Fault.Kind
  text : String
deriving DecidableEq, Repr

namespace Fault

/-- The fault that is known by its kind alone. -/
def ofKind (kind : Kind) : Fault := ⟨kind, kind.text⟩

/-- The fault of a line that is given no time to wait in. -/
def zeroTimeout : Fault := ⟨.invalidInput, "cannot set a 0 duration timeout"⟩

/-- Whether a read that failed like this only found no data in time. -/
def isPollTimeout (f : Fault) : Bool :=
  f.kind == .timedOut || f.kind == .wouldBlock

/-- Whether a read or write that failed like this was cut short and did nothing. -/
def isInterruption (f : Fault) : Bool :=
  f.kind == .interrupted

/-- Whether a write that failed like this is tried again. -/
def isTransient (f : Fault) : Bool :=
  f.kind == .interrupted || f.kind == .wouldBlock

end Fault

end ControlNode.Line
