import ControlNode.Proofs.Inbox.Routing
import Mathlib.Logic.Function.Basic

/-!
# An inbox shared by threads

One thread, the courier, routes the arriving packets while any number of senders send commands and
wait for answers. They share the mailbox, which has room for one letter, and a lock that a sender
holds from before it empties the mailbox until it returns. A step is one operation on the mailbox
or on the lock, so the steps of the threads interleave in any order; time does not occur, and a
sender may give up whenever the mailbox is empty.
-/

namespace ControlNode.Inbox.Threads

/-! ### Threads -/

/-- An answer on its way. The serial number, which no step looks at, tells it apart from answers
of the same bytes. -/
structure Letter where
  serial : Nat
  packet : Packet
deriving DecidableEq, Repr

/-- How many letters the mailbox has room for. -/
def capacity : Nat := 1

/-- Where the courier is while it delivers an answer. -/
inductive Courier where
  | idle
  | offering (l : Letter)
  /-- The mailbox was full, so the letter in it has to go. -/
  | displacing (l : Letter)
  | retrying (l : Letter)

/-- Where a sender is. -/
inductive Sender where
  | idle
  | locking (command : Packet)
  | draining (command : Packet)
  | writing (wire : List UInt8)
  | awaiting
  | leaving (answer : Option Letter)

namespace Courier

/-- The letter that is not in the mailbox yet. -/
def held : Courier → List Letter
  | idle => []
  | offering l | displacing l | retrying l => [l]

end Courier

namespace Sender

/-- A sender is inside from the moment it has the lock until it gives it back. -/
def isInside : Sender → Bool
  | idle | locking _ => false
  | draining _ | writing _ | awaiting | leaving _ => true

/-- The letter that was taken out of the mailbox and not returned yet. -/
def held : Sender → List Letter
  | leaving answer => answer.toList
  | _ => []

/-- A sender that found the mailbox empty writes the frame of its command, if there is one. -/
def afterDrain (command : Packet) : Sender :=
  match Frame.encode command with
  | .ok wire => .writing wire
  | .error _ => .leaving none

/-- A sender waits after a write that succeeded. -/
def afterWrite : Except Frame.Error Unit → Sender
  | .ok () => .awaiting
  | .error _ => .leaving none

lemma afterDrain_of_ok {command : Packet} {wire : List UInt8}
    (h : Frame.encode command = .ok wire) : afterDrain command = .writing wire := by
  simp [afterDrain, h]

lemma afterDrain_of_error {command : Packet} {e : Frame.Error}
    (h : Frame.encode command = .error e) : afterDrain command = .leaving none := by
  simp [afterDrain, h]

lemma afterDrain_cases (command : Packet) :
    (∃ wire, afterDrain command = .writing wire) ∨ afterDrain command = .leaving none := by
  cases h : Frame.encode command with
  | ok wire => exact Or.inl ⟨wire, afterDrain_of_ok h⟩
  | error e => exact Or.inr (afterDrain_of_error h)

lemma isInside_afterDrain (command : Packet) : (afterDrain command).isInside = true := by
  rcases afterDrain_cases command with ⟨wire, h⟩ | h
  · rw [h]
    rfl
  · rw [h]
    rfl

lemma held_afterDrain (command : Packet) : (afterDrain command).held = [] := by
  rcases afterDrain_cases command with ⟨wire, h⟩ | h
  · rw [h]
    rfl
  · rw [h]
    rfl

lemma isInside_afterWrite (outcome : Except Frame.Error Unit) :
    (afterWrite outcome).isInside = true := by
  cases outcome <;> rfl

lemma held_afterWrite (outcome : Except Frame.Error Unit) : (afterWrite outcome).held = [] := by
  cases outcome <;> rfl

end Sender

/-! ### States -/

/-- What the threads share, and where each of them is. -/
structure State (ι : Type) where
  mailbox : List Letter := []
  queue : List Packet := []
  tally : Tally := {}
  lock : Option ι := none
  courier : Courier := .idle
  sender : ι → Sender := fun _ => .idle

namespace State

variable {ι : Type}

/-- The inbox that a single thread would see. -/
def view (s : State ι) : Inbox where
  mailbox := s.mailbox.head?.map Letter.packet
  queue := s.queue
  tally := s.tally

/-- The letter of the next answer. -/
def stamp (s : State ι) (p : Packet) : Letter := ⟨s.tally.answers, p⟩

/-- The letter in the hands of the sender that has the lock. -/
def inHand (s : State ι) : List Letter :=
  match s.lock with
  | some i => (s.sender i).held
  | none => []

lemma inHand_of_holder {s : State ι} {i : ι} {x : Sender} (hlock : s.lock = some i)
    (hi : s.sender i = x) : s.inHand = x.held := by
  simp [inHand, hlock, hi]

lemma inHand_of_free {s : State ι} (h : s.lock = none) : s.inHand = [] := by
  simp [inHand, h]

end State

/-! ### Events -/

/-- What a step does. -/
inductive Event (ι : Type) where
  | sort (p : Packet)
  | accept (l : Letter)
  | insert (l : Letter)
  | full (l : Letter)
  | displace (stale : Letter)
  | vanish (l : Letter)
  | refuse (l : Letter)
  | collect (p : Packet)
  | call (i : ι) (command : Packet)
  | acquire (i : ι)
  | drain (i : ι) (stale : Letter)
  | drained (i : ι)
  | wrote (i : ι) (wire : List UInt8) (outcome : Except Frame.Error Unit)
  | receive (i : ι) (l : Letter)
  | timeout (i : ι)
  | release (i : ι) (answer : Option Letter)

namespace Event

variable {ι : Type}

/-- The sender that takes the step. -/
def sender? : Event ι → Option ι
  | call i _ | acquire i | drain i _ | drained i | wrote i _ _ | receive i _ | timeout i
  | release i _ => some i
  | sort _ | accept _ | insert _ | full _ | displace _ | vanish _ | refuse _ | collect _ => none

/-- The letter that arrives with an event. -/
def accepted? : Event ι → Option Letter
  | accept l => some l
  | _ => none

def inserted? : Event ι → Option Letter
  | insert l => some l
  | _ => none

def displaced? : Event ι → Option Letter
  | displace stale => some stale
  | _ => none

def drained? : Event ι → Option Letter
  | drain _ stale => some stale
  | _ => none

def returned? : Event ι → Option Letter
  | release _ answer => answer
  | _ => none

end Event

/-! ### Steps -/

variable {ι : Type} [DecidableEq ι]

/-- The steps of the courier, of whoever takes measurements, and of the senders. -/
inductive Step : State ι → Event ι → State ι → Prop
  /-- The courier sorts a packet that is no answer. -/
  | sort {s : State ι} {p : Packet} (hc : s.courier = .idle) (hp : ¬ p.IsAnswer) :
      Step s (.sort p)
        { s with queue := (s.view.route p).value.queue, tally := (s.view.route p).value.tally }
  /-- The courier counts an answer, which it has to deliver. -/
  | accept {s : State ι} {p : Packet} (hc : s.courier = .idle) (hp : p.IsAnswer) :
      Step s (.accept (s.stamp p))
        { s with
          tally := { s.tally with answers := s.tally.answers + 1 }
          courier := .offering (s.stamp p) }
  | offer {s : State ι} {l : Letter} (hc : s.courier = .offering l)
      (hroom : s.mailbox.length < capacity) :
      Step s (.insert l) { s with mailbox := s.mailbox ++ [l], courier := .idle }
  | full {s : State ι} {l : Letter} (hc : s.courier = .offering l)
      (hfull : ¬ s.mailbox.length < capacity) :
      Step s (.full l) { s with courier := .displacing l }
  /-- The courier takes the stale letter out of the mailbox. -/
  | displace {s : State ι} {l stale : Letter} {rest : List Letter}
      (hc : s.courier = .displacing l) (hm : s.mailbox = stale :: rest) :
      Step s (.displace stale)
        { s with
          mailbox := rest
          tally := { s.tally with staleOverwritten := s.tally.staleOverwritten + 1 }
          courier := .retrying l }
  /-- A sender took the stale letter in the meantime. -/
  | vanish {s : State ι} {l : Letter} (hc : s.courier = .displacing l) (hm : s.mailbox = []) :
      Step s (.vanish l) { s with courier := .retrying l }
  | retry {s : State ι} {l : Letter} (hc : s.courier = .retrying l)
      (hroom : s.mailbox.length < capacity) :
      Step s (.insert l) { s with mailbox := s.mailbox ++ [l], courier := .idle }
  /-- The mailbox was filled again in the meantime, so the letter is lost. -/
  | refuse {s : State ι} {l : Letter} (hc : s.courier = .retrying l)
      (hfull : ¬ s.mailbox.length < capacity) :
      Step s (.refuse l) { s with courier := .idle }
  | collect {s : State ι} {p : Packet} {queue : List Packet} (hq : s.queue = p :: queue) :
      Step s (.collect p) { s with queue }
  | call {s : State ι} {i : ι} (command : Packet) (hi : s.sender i = .idle) :
      Step s (.call i command)
        { s with sender := Function.update s.sender i (.locking command) }
  | acquire {s : State ι} {i : ι} {command : Packet} (hi : s.sender i = .locking command)
      (hlock : s.lock = none) :
      Step s (.acquire i)
        { s with lock := some i, sender := Function.update s.sender i (.draining command) }
  /-- The sender drops a stale letter and looks again. -/
  | drain {s : State ι} {i : ι} {command : Packet} {stale : Letter} {rest : List Letter}
      (hi : s.sender i = .draining command) (hm : s.mailbox = stale :: rest) :
      Step s (.drain i stale)
        { s with
          mailbox := rest
          tally := { s.tally with staleDrained := s.tally.staleDrained + 1 } }
  | drained {s : State ι} {i : ι} {command : Packet} (hi : s.sender i = .draining command)
      (hm : s.mailbox = []) :
      Step s (.drained i)
        { s with sender := Function.update s.sender i (.afterDrain command) }
  | wrote {s : State ι} {i : ι} {wire : List UInt8} (outcome : Except Frame.Error Unit)
      (hi : s.sender i = .writing wire) :
      Step s (.wrote i wire outcome)
        { s with sender := Function.update s.sender i (.afterWrite outcome) }
  | receive {s : State ι} {i : ι} {l : Letter} {rest : List Letter}
      (hi : s.sender i = .awaiting) (hm : s.mailbox = l :: rest) :
      Step s (.receive i l)
        { s with
          mailbox := rest
          sender := Function.update s.sender i (.leaving (some l)) }
  /-- The sender finds the mailbox empty and gives up. -/
  | timeout {s : State ι} {i : ι} (hi : s.sender i = .awaiting) (hm : s.mailbox = []) :
      Step s (.timeout i) { s with sender := Function.update s.sender i (.leaving none) }
  /-- The sender gives the lock back and returns. -/
  | release {s : State ι} {i : ι} {answer : Option Letter}
      (hi : s.sender i = .leaving answer) :
      Step s (.release i answer)
        { s with lock := none, sender := Function.update s.sender i .idle }

/-- The events, the last one first, lead from the first state to the second. -/
inductive Steps (s : State ι) : List (Event ι) → State ι → Prop
  | nil : Steps s [] s
  | cons {τ : List (Event ι)} {s₁ s₂ : State ι} {e : Event ι} (run : Steps s τ s₁)
      (step : Step s₁ e s₂) : Steps s (e :: τ) s₂

/-- A run begins with an empty mailbox, a free lock and all threads idle. -/
abbrev Run (τ : List (Event ι)) (s : State ι) : Prop :=
  Steps {} τ s

namespace Steps

variable {τ τ' : List (Event ι)} {s s' s'' : State ι} {e : Event ι}

lemma trans (h : Steps s τ s') (h' : Steps s' τ' s'') : Steps s (τ' ++ τ) s'' := by
  induction h' with
  | nil => exact h
  | cons _ step ih => exact ih.cons step

lemma single (step : Step s e s') : Steps s [e] s' :=
  nil.cons step

/-- Where in a run an event happens. -/
lemma split (h : Steps s (τ' ++ e :: τ) s') :
    ∃ s₁ s₂, Steps s τ s₁ ∧ Step s₁ e s₂ ∧ Steps s₂ τ' s' := by
  induction τ' generalizing s' with
  | nil =>
    cases h with
    | cons run step => exact ⟨_, _, run, step, nil⟩
  | cons e' τ' ih =>
    cases h with
    | cons run step =>
      obtain ⟨s₁, s₂, before, at_e, after⟩ := ih run
      exact ⟨s₁, s₂, before, at_e, after.cons step⟩

end Steps

end ControlNode.Inbox.Threads
