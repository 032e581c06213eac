import ControlNode.Collector
import ControlNode.Connection.Basic

/-!
# Failures of the command line

A run that fails ends with a message and an exit code. The code tells the cause: wrong usage, a
device that cannot be opened, no permission, silence, a refusal, an answer that makes no sense, or
an error of the program. A run that panics has no code of its own.
-/

namespace ControlNode.Cli

inductive Code where
  | success
  | failure
  | transport
  | permissionDenied
  | invalidData
  | usage
  | timeout
  | internal
deriving DecidableEq, Repr

def Code.number : Code → Nat
  | .success => 0
  | .failure => 1
  | .transport => 3
  | .permissionDenied => 50
  | .invalidData => 60
  | .usage => 64
  | .timeout => 124
  | .internal => 125

structure Failure where
  code : Code
  message : String
deriving DecidableEq, Repr

namespace Failure

def usage (message : String) : Failure := ⟨.usage, message⟩

def inContext (code : Code) (context message : String) : Failure :=
  ⟨code, context ++ ": " ++ message⟩

/-- The exit code for a fault of a line. -/
def codeOfFault : Line.Fault.Kind → Code
  | .permissionDenied => .permissionDenied
  | .timedOut => .timeout
  | .wouldBlock => .timeout
  | .notFound => .transport
  | _ => .internal

/-- The failure for a fault of a line. -/
def ofFault (context : String) (f : Line.Fault) : Failure :=
  inContext (codeOfFault f.kind) context f.text

/-- The failure for a serial device that cannot be used. -/
def ofSerialError (context : String) : Line.SerialError → Failure
  | .fault f => ofFault context f
  | e => inContext .transport context e.message

/-- The failure for a frame that was not sent or received. -/
def ofFrameError (context : String) : Frame.Error → Failure
  | .fault f => ofFault context f
  | .closed => inContext .failure context Frame.Error.closed.message
  | e => inContext .invalidData context e.message

/-- The failure for a connection that was not made. -/
def ofConnectionError (context : String) : ConnectionError → Failure
  | .serial e => ofSerialError context e
  | .frame e => ofFrameError context e
  | .spawn f => inContext .internal context (ConnectionError.spawn f).message

/-- The exit code for a command that failed. -/
def codeOfCommandError : CommandError → Code
  | .timeout _ => .timeout
  | .refused _ => .failure
  | .unexpectedAnswer _ _ => .invalidData
  | .invalidArgument _ => .usage

def ofCommandError (e : CommandError) : Failure := ⟨codeOfCommandError e, e.message⟩

/-- The failure for a collector that was not started. -/
def ofCollectorError (e : CollectorError) : Failure :=
  inContext .internal "measures reader" e.message

/-- The failure of a run that cannot take note of interrupts. -/
def ofHandlerError (text : String) : Failure :=
  ⟨.internal, "signal handler setup failed: " ++ text⟩

end Failure

/-- What ends a run before its time: a failure, which is told, or a panic. -/
inductive Halt where
  | failure (f : Failure)
  | panic (message : String)
deriving DecidableEq, Repr

/-- A check that fails halts the run. -/
def Halt.lift {α : Type} (x : Except Failure α) : Except Halt α := x.mapError .failure

instance : MonadLift (Except Failure) (Except Halt) := ⟨Halt.lift⟩

end ControlNode.Cli
