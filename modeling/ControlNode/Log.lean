/-!
# Log events

Operations that report what they did return their result together with the events they emitted,
oldest first. `Logged` is the monad of such results: running one step after another concatenates
the events, and the values do not depend on them.
-/

namespace ControlNode

namespace Log

inductive Level where
  | trace
  | debug
  | info
  | warn
  | error
deriving DecidableEq, Repr

/-- The value of one field of an event. -/
inductive Value where
  | text (s : String)
  | number (n : Int)
  | real (x : Float)

/-- One event: a fixed message with named values. -/
structure Event where
  level : Level
  message : String
  fields : List (String × Value)

end Log

universe u

/-- A value with the events that were emitted on the way to it. -/
structure Logged (α : Type u) where
  value : α
  log : List Log.Event

namespace Logged

variable {α β : Type u}

instance : Monad Logged where
  pure a := ⟨a, []⟩
  bind x f := ⟨(f x.value).value, x.log ++ (f x.value).log⟩

@[simp] theorem value_pure (a : α) : (pure a : Logged α).value = a := rfl

@[simp] theorem log_pure (a : α) : (pure a : Logged α).log = [] := rfl

@[simp] theorem value_bind (x : Logged α) (f : α → Logged β) :
    (x >>= f).value = (f x.value).value := rfl

@[simp] theorem log_bind (x : Logged α) (f : α → Logged β) :
    (x >>= f).log = x.log ++ (f x.value).log := rfl

@[simp] theorem value_map (f : α → β) (x : Logged α) : (f <$> x).value = f x.value := rfl

end Logged

namespace Log

def emit (level : Level) (message : String) (fields : List (String × Value)) : Logged Unit :=
  ⟨(), [⟨level, message, fields⟩]⟩

@[simp] theorem log_emit (level : Level) (message : String) (fields : List (String × Value)) :
    (emit level message fields).log = [⟨level, message, fields⟩] := rfl

end Log

end ControlNode
