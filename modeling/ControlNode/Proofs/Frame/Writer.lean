import ControlNode.Frame.Writer
import ControlNode.Proofs.Frame.Noise
import ControlNode.Proofs.Trace

/-!
# Wire images through any line

A line can accept any part of what it is offered, nothing at all, or fail, and a flush of it can
fail too. A step of a writer is a sequence of calls on the line (`Line.Course`): it offers what was
not accepted yet until nothing is left, then it flushes, and a call that was only held up is made
again. So a line has accepted the first bytes of the wire image whenever a step stops, and the last
call decides what the step returns (`Writer.exists_writes`).
-/

namespace ControlNode

namespace Line

/-! ### Calls on a line -/

/-- A call on a line and its outcome: bytes are offered, or the line is flushed. -/
inductive Call where
  | write (offered : List UInt8) (outcome : Except Fault Nat)
  | flush (outcome : Except Fault Unit)

namespace Call

/-- The bytes that a call made the line accept. -/
def taken : Call → List UInt8
  | write offered (.ok count) => offered.take count
  | write _ (.error _) => []
  | flush _ => []

/-- The fault of a call that failed. -/
def fault? : Call → Option Fault
  | write _ (.error f) => some f
  | flush (.error f) => some f
  | _ => none

def isWrite : Call → Bool
  | write _ _ => true
  | flush _ => false

def isFlush : Call → Bool
  | write _ _ => false
  | flush _ => true

/-- Whether a call is the other one made once more. -/
def Repeats : Call → Call → Prop
  | write offered _, write offered' _ => offered = offered'
  | flush _, flush _ => True
  | _, _ => False

end Call

/-- The bytes that calls made the line accept, one call after the other. -/
def takenBy (calls : List Call) : List UInt8 := calls.flatMap Call.taken

@[simp] lemma takenBy_nil : takenBy [] = [] := rfl

@[simp] lemma takenBy_cons (c : Call) (calls : List Call) :
    takenBy (c :: calls) = c.taken ++ takenBy calls := rfl

@[simp] lemma takenBy_append (calls later : List Call) :
    takenBy (calls ++ later) = takenBy calls ++ takenBy later := List.flatMap_append

namespace Sink

/-- A call leads from one state of a line to another. -/
inductive Makes : Sink → Call → Sink → Prop
  | write {s s' : Sink} {offered : List UInt8} {o : Except Fault Nat}
      (h : s.write offered = (o, s')) : Makes s (.write offered o) s'
  | flush {s s' : Sink} {o : Except Fault Unit} (h : s.flush = (o, s')) : Makes s (.flush o) s'

/-- What a line has accepted and counted after some calls. -/
structure Ledger (s : Sink) (calls : List Call) (s' : Sink) : Prop where
  accepted : s'.accepted = s.accepted ++ takenBy calls
  writeCalls : s'.writeCalls = s.writeCalls + calls.countP Call.isWrite
  flushCalls : s'.flushCalls = s.flushCalls + calls.countP Call.isFlush

variable {s s' : Sink} {offered : List UInt8} {o : Except Fault Nat}

lemma ledger_write (h : s.write offered = (o, s')) : Ledger s [.write offered o] s' := by
  unfold write at h
  split at h
  · cases h
    constructor <;> simp [Call.taken, Call.isWrite, Call.isFlush]
  · next count responses hresponses =>
    cases h
    have htake : offered.take (min count offered.length) = offered.take count := by
      rw [List.take_eq_take_iff]
      omega
    constructor <;> simp [Call.taken, Call.isWrite, Call.isFlush, htake]
  · cases h
    constructor <;> simp [Call.taken, Call.isWrite, Call.isFlush]

lemma ledger_flush {o : Except Fault Unit} (h : s.flush = (o, s')) : Ledger s [.flush o] s' := by
  unfold flush at h
  split at h <;> cases h <;> constructor <;> simp [Call.taken, Call.isWrite, Call.isFlush]

/-- The ledger of a line is kept by its calls. -/
lemma ledger_of_trace {calls : List Call} (h : Trace Makes s calls s') : Ledger s calls s' := by
  induction h with
  | nil s => exact ⟨(List.append_nil _).symm, rfl, rfl⟩
  | @cons s s₁ s₂ c calls first later ih =>
    have hfirst : Ledger s [c] s₁ := by
      cases first with
      | write h => exact ledger_write h
      | flush h => exact ledger_flush h
    constructor
    · rw [ih.accepted, hfirst.accepted, List.append_assoc, ← takenBy_append]
      rfl
    · rw [ih.writeCalls, hfirst.writeCalls, Nat.add_assoc, ← List.countP_append]
      rfl
    · rw [ih.flushCalls, hfirst.flushCalls, Nat.add_assoc, ← List.countP_append]
      rfl

end Sink

end Line

namespace Frame

open Line

namespace Outlet

/-! ### The calls of a step -/

/-- What a call makes a step return; nothing if the step goes on, as after bytes were accepted and
after a call that was held up. -/
def verdict? : Call → Option (Except Error Unit)
  | .write _ (.ok 0) => some (.error .closed)
  | .write _ (.ok (_ + 1)) => none
  | .flush (.ok ()) => some (.ok ())
  | .write _ (.error f) => if f.isTransient then none else some (.error (.fault f))
  | .flush (.error f) => if f.isTransient then none else some (.error (.fault f))

section

variable {c : Call}

lemma verdict?_eq_ok_iff : verdict? c = some (.ok ()) ↔ c = .flush (.ok ()) := by
  match c with
  | .write _ (.ok 0) | .write _ (.ok (_ + 1)) | .flush (.ok ()) => simp [verdict?]
  | .write _ (.error f) | .flush (.error f) =>
    rw [verdict?]
    split_ifs <;> simp

lemma verdict?_eq_closed_iff :
    verdict? c = some (.error .closed) ↔ ∃ offered, c = .write offered (.ok 0) := by
  match c with
  | .write _ (.ok 0) | .write _ (.ok (_ + 1)) | .flush (.ok ()) => simp [verdict?]
  | .write _ (.error f) | .flush (.error f) =>
    rw [verdict?]
    split_ifs <;> simp

lemma verdict?_of_fault {f : Fault} (h : c.fault? = some f) :
    verdict? c = if f.isTransient then none else some (.error (.fault f)) := by
  match c with
  | .write _ (.ok _) | .flush (.ok ()) => cases h
  | .write _ (.error _) | .flush (.error _) => cases h; rfl

lemma verdict?_of_not_fault (h : c.fault? = none) :
    verdict? c = none ∨ verdict? c = some (.ok ()) ∨ verdict? c = some (.error .closed) := by
  match c with
  | .write _ (.ok (_ + 1)) => exact .inl rfl
  | .flush (.ok ()) => exact .inr (.inl rfl)
  | .write _ (.ok 0) => exact .inr (.inr rfl)
  | .write _ (.error _) | .flush (.error _) => cases h

lemma taken_of_fault {f : Fault} (h : c.fault? = some f) : c.taken = [] := by
  match c with
  | .write _ (.ok _) => cases h
  | .write _ (.error _) => rfl
  | .flush _ => rfl

end

/-- Whether a call is the one to make when the given bytes are left: all of them are offered, and if
there are none, the line is flushed. -/
def IsDue (rest : List UInt8) : Call → Prop
  | .write offered _ => offered = rest ∧ rest ≠ []
  | .flush _ => rest = []

/-- The calls that write the given bytes and flush the line, and what they come to. -/
inductive Course : List UInt8 → List Call → Except Error Unit → Prop
  /-- The step goes on with the bytes that are then left. -/
  | goesOn {rest left : List UInt8} {c : Call} {later : List Call} {r : Except Error Unit}
      (hdue : IsDue rest c) (hc : verdict? c = none) (hleft : c.taken ++ left = rest)
      (hlater : Course left later r) : Course rest (c :: later) r
  /-- A call ends the step. -/
  | ended {rest : List UInt8} {c : Call} {r : Except Error Unit} (hdue : IsDue rest c)
      (hc : verdict? c = some r) : Course rest [c] r

section

variable {rest : List UInt8} {c c' : Call}

lemma IsDue.taken_prefix (h : IsDue rest c) : c.taken <+: rest := by
  match c with
  | .write offered (.ok count) =>
    obtain ⟨rfl, -⟩ := h
    exact List.take_prefix count offered
  | .write _ (.error _) | .flush _ => exact List.nil_prefix

/-- What is to be done is settled by the bytes that are left. -/
lemma IsDue.repeats (h : IsDue rest c) (h' : IsDue rest c') : c'.Repeats c := by
  match c, c' with
  | .write _ _, .write _ _ => exact h'.1.trans h.1.symm
  | .flush _, .flush _ => trivial
  | .write _ _, .flush _ => exact absurd h' h.2
  | .flush _, .write _ _ => exact absurd h h'.2

end

namespace Course

variable {rest : List UInt8} {calls before after : List Call} {c : Call} {r : Except Error Unit}

lemma isDue (h : Course rest (c :: after) r) : IsDue rest c := by
  cases h <;> assumption

lemma ne_nil (h : Course rest calls r) : calls ≠ [] := by
  cases h <;> exact List.cons_ne_nil _ _

/-- At any call, what was accepted before it and what is left are the bytes to be written. -/
lemma split (h : Course rest calls r) (heq : calls = before ++ c :: after) :
    ∃ left, takenBy before ++ left = rest ∧ Course left (c :: after) r := by
  induction h generalizing before with
  | @goesOn rest left c' later r hdue hc hleft hlater ih =>
    cases before with
    | nil =>
      cases heq
      exact ⟨rest, rfl, .goesOn hdue hc hleft hlater⟩
    | cons b before =>
      cases heq
      obtain ⟨left', hleft', hcourse⟩ := ih rfl
      refine ⟨left', ?_, hcourse⟩
      rw [takenBy_cons, List.append_assoc, hleft', hleft]
  | @ended rest c' r hdue hc =>
    cases before with
    | nil =>
      cases heq
      exact ⟨rest, rfl, .ended hdue hc⟩
    | cons b before => simp at heq

lemma takenBy_prefix (h : Course rest calls r) : takenBy calls <+: rest := by
  induction h with
  | goesOn hdue hc hleft hlater ih =>
    rw [takenBy_cons, ← hleft]
    exact (List.prefix_append_right_inj _).2 ih
  | ended hdue hc =>
    rw [takenBy_cons, takenBy_nil, List.append_nil]
    exact hdue.taken_prefix

/-- A call that was held up is made once more. -/
lemma exists_repeats (h : Course rest (c :: after) r) {f : Fault} (hf : c.fault? = some f)
    (htransient : f.isTransient = true) : ∃ c' later, after = c' :: later ∧ c'.Repeats c := by
  have hnone : verdict? c = none := by rw [verdict?_of_fault hf, if_pos htransient]
  cases h with
  | goesOn hdue hc hleft hlater =>
    rw [taken_of_fault hf, List.nil_append] at hleft
    subst hleft
    obtain ⟨c', later, rfl⟩ := List.exists_cons_of_ne_nil hlater.ne_nil
    exact ⟨c', later, rfl, hdue.repeats hlater.isDue⟩
  | ended hdue hc =>
    rw [hnone] at hc
    cases hc

/-- A call that decides anything decides what the step returns. -/
lemma verdict_of_mem (h : Course rest calls r) (hc : c ∈ calls) {r' : Except Error Unit}
    (hr' : verdict? c = some r') : r = r' := by
  induction h with
  | goesOn hdue hnone hleft hlater ih =>
    rcases List.mem_cons.1 hc with rfl | hc
    · rw [hnone] at hr'
      cases hr'
    · exact ih hc
  | ended hdue hsome =>
    obtain rfl := List.mem_singleton.1 hc
    exact Option.some.inj (hsome.symm.trans hr')

lemma exists_verdict (h : Course rest calls r) : ∃ c ∈ calls, verdict? c = some r := by
  induction h with
  | goesOn hdue hnone hleft hlater ih =>
    obtain ⟨c, hmem, hc⟩ := ih
    exact ⟨c, List.mem_cons_of_mem _ hmem, hc⟩
  | ended hdue hsome => exact ⟨_, List.mem_singleton_self _, hsome⟩

/-- A step returns exactly what one of its calls decides. -/
lemma eq_iff (h : Course rest calls r) {r' : Except Error Unit} :
    r = r' ↔ ∃ c ∈ calls, verdict? c = some r' := by
  constructor
  · rintro rfl
    exact h.exists_verdict
  · rintro ⟨c, hmem, hc⟩
    exact h.verdict_of_mem hmem hc

lemma eq_closed_iff (h : Course rest calls r) :
    r = .error .closed ↔ ∃ offered, .write offered (.ok 0) ∈ calls := by
  rw [h.eq_iff]
  simp only [verdict?_eq_closed_iff]
  constructor
  · rintro ⟨c, hmem, offered, rfl⟩
    exact ⟨offered, hmem⟩
  · rintro ⟨offered, hmem⟩
    exact ⟨_, hmem, offered, rfl⟩

/-- A flush that succeeds comes after the last byte. -/
lemma eq_ok_iff (h : Course rest calls r) :
    r = .ok () ↔ takenBy calls = rest ∧ .flush (.ok ()) ∈ calls := by
  rw [h.eq_iff]
  simp only [verdict?_eq_ok_iff, exists_eq_right]
  refine ⟨fun hmem => ⟨?_, hmem⟩, And.right⟩
  obtain ⟨before, after, rfl⟩ := List.append_of_mem hmem
  obtain ⟨left, hleft, hcourse⟩ := h.split rfl
  obtain rfl : left = [] := hcourse.isDue
  rw [List.append_nil] at hleft
  apply h.takenBy_prefix.eq_of_length_le
  rw [← hleft, takenBy_append, List.length_append]
  exact Nat.le_add_right _ _

/-- The fault that a step returns is the first one that did not only hold up a call. -/
lemma eq_fault_iff (h : Course rest calls r) {f : Fault} :
    r = .error (.fault f) ↔
      (calls.filterMap Call.fault?).find? (fun f => !f.isTransient) = some f := by
  induction h with
  | @goesOn rest left c later r hdue hc hleft hlater ih =>
    rw [ih, List.filterMap_cons]
    cases hf : c.fault? with
    | none => rfl
    | some g =>
      have htransient : g.isTransient = true := by
        by_contra hfinal
        rw [verdict?_of_fault hf, if_neg hfinal] at hc
        cases hc
      rw [List.find?_cons_of_neg (by simp [htransient])]
  | @ended rest c r hdue hc =>
    rw [List.filterMap_cons, List.filterMap_nil]
    cases hf : c.fault? with
    | none =>
      rcases verdict?_of_not_fault hf with h | h | h <;> rw [hc] at h <;> cases h <;> simp
    | some g =>
      rw [verdict?_of_fault hf] at hc
      split_ifs at hc with hg
      cases hc
      simp [hg]

lemma eq_closed_or_fault {e : Error} (h : Course rest calls (.error e)) :
    e = .closed ∨ ∃ f, e = .fault f := by
  obtain ⟨c, -, hc⟩ := h.exists_verdict
  cases hf : c.fault? with
  | none =>
    rcases verdict?_of_not_fault hf with h | h | h <;> rw [hc] at h <;> cases h
    exact .inl rfl
  | some f =>
    rw [verdict?_of_fault hf] at hc
    split_ifs at hc
    cases hc
    exact .inr ⟨f, rfl⟩

end Course

/-! ### Every step is such calls -/

variable {s s₁ s' : Sink} {rest left : List UInt8} {c : Call} {calls : List Call}
  {r : Except Error Unit}

lemma flushes_of_write {bytes : List UInt8} {o : Except Fault Nat} (h : s.write bytes = (o, s')) :
    s'.flushes = s.flushes := by
  unfold Sink.write at h
  split at h <;> cases h <;> rfl

lemma responses_of_flush {o : Except Fault Unit} (h : s.flush = (o, s')) :
    s'.responses = s.responses := by
  unfold Sink.flush at h
  split at h <;> cases h <;> rfl

/-- What bounds the calls of a step: the bytes that are left, and the responses that are not simply
that everything is accepted. -/
def effort (s : Sink) (rest : List UInt8) : Nat :=
  rest.length + s.responses.length + s.flushes.length

/-- The calls of a step on a line, and what they come to. -/
structure Runs (s : Sink) (rest : List UInt8) (calls : List Call) (r : Except Error Unit)
    (s' : Sink) : Prop where
  trace : Trace Sink.Makes s calls s'
  course : Course rest calls r
  length_le : calls.length ≤ effort s rest + 1

lemma Runs.goesOn (hmake : Sink.Makes s c s₁) (hdue : IsDue rest c) (hc : verdict? c = none)
    (hleft : c.taken ++ left = rest) (hless : effort s₁ left < effort s rest)
    (hlater : Runs s₁ left calls r s') : Runs s rest (c :: calls) r s' where
  trace := .cons hmake hlater.trace
  course := .goesOn hdue hc hleft hlater.course
  length_le := by
    have hlength := hlater.length_le
    rw [List.length_cons]
    omega

lemma Runs.ended (hmake : Sink.Makes s c s') (hdue : IsDue rest c) (hc : verdict? c = some r) :
    Runs s rest [c] r s' where
  trace := .single hmake
  course := .ended hdue hc
  length_le := Nat.succ_le_succ (Nat.zero_le _)

lemma exists_runs_flush (s : Sink) : ∃ calls, Runs s [] calls (flush s).1 (flush s).2 := by
  fun_induction flush s with
  | case1 s s' h => exact ⟨_, .ended (.flush h) rfl rfl⟩
  | case2 s f s' h hf ih =>
    obtain ⟨calls, hcalls⟩ := ih
    have hflushes := Sink.length_flushes_of_fault h
    refine ⟨_, .goesOn (.flush h) rfl (if_pos hf) rfl ?_ hcalls⟩
    rw [effort, effort, responses_of_flush h]
    exact Nat.add_lt_add_left hflushes _
  | case3 s f s' h hf => exact ⟨_, .ended (.flush h) rfl (if_neg hf)⟩

/-- Every step on a line is a sequence of calls, of which there are not more than bytes and
responses. -/
lemma exists_runs (s : Sink) (bytes : List UInt8) :
    ∃ calls, Runs s bytes calls (writeWire s bytes).1 (writeWire s bytes).2 := by
  unfold writeWire
  fun_induction writeAll s bytes with
  | case1 s => exact exists_runs_flush s
  | case2 s b bytes s' h => exact ⟨_, .ended (.write h) ⟨rfl, List.cons_ne_nil b bytes⟩ rfl⟩
  | case3 s b bytes count s' h ih =>
    obtain ⟨calls, hcalls⟩ := ih
    have hresponses := Sink.length_responses_write_le s (b :: bytes)
    simp only [h] at hresponses
    refine ⟨_, .goesOn (.write h) ⟨rfl, List.cons_ne_nil b bytes⟩ rfl
      (List.take_append_drop _ _) ?_ hcalls⟩
    rw [effort, effort, flushes_of_write h, List.drop_succ_cons, List.length_drop,
      List.length_cons]
    omega
  | case4 s b bytes f s' h hf ih =>
    obtain ⟨calls, hcalls⟩ := ih
    have hresponses := Sink.length_responses_of_fault h
    refine ⟨_, .goesOn (.write h) ⟨rfl, List.cons_ne_nil b bytes⟩ (if_pos hf) rfl ?_ hcalls⟩
    rw [effort, effort, flushes_of_write h]
    omega
  | case5 s b bytes f s' h hf =>
    exact ⟨_, .ended (.write h) ⟨rfl, List.cons_ne_nil b bytes⟩ (if_neg hf)⟩

end Outlet

namespace Writer

/-! ### Steps of a writer -/

/-- The bytes that a step has to write: its wire image. -/
def Step.image : Step → Except Error (List UInt8)
  | .send p => encode p
  | .wire bytes => .ok bytes
  | .flush => .ok []

variable {w w' : Writer} {step : Step}

/-- The buffer of a writer has no part in the sending of a packet. -/
lemma send_eq (w : Writer) (p : Packet) :
    ((w.send p).1, (w.send p).2.sink) = Outlet.send w.sink p := by
  rw [send, clear, appendTo, Outlet.send]
  cases encode p <;> rfl

/-- What a step does to the line is to write its wire image and to flush. -/
lemma step_of_image {image : List UInt8} (h : step.image = .ok image) :
    ((w.step step).1, (w.step step).2.sink) = Outlet.writeWire w.sink image := by
  cases step with
  | send p =>
    rw [Step.image] at h
    rw [Writer.step, send_eq, Outlet.send, h]
  | wire bytes =>
    cases h
    rfl
  | flush =>
    cases h
    rw [Outlet.writeWire, Outlet.writeAll]
    rfl

/-- A packet without a frame leaves the line alone. -/
lemma step_of_error {e : Error} (h : step.image = .error e) :
    ((w.step step).1, (w.step step).2.sink) = (.error e, w.sink) := by
  cases step with
  | send p =>
    rw [Step.image] at h
    rw [Writer.step, send_eq, Outlet.send, h]
  | wire bytes => cases h
  | flush => cases h

/-- What a step returns and does to the line does not depend on the buffer. -/
lemma step_congr (h : w.sink = w'.sink) (step : Step) :
    (w.step step).1 = (w'.step step).1 ∧ (w.step step).2.sink = (w'.step step).2.sink := by
  rw [← Prod.mk.injEq]
  cases himage : step.image with
  | ok image => rw [step_of_image himage, step_of_image himage, h]
  | error e => rw [step_of_error himage, step_of_error himage, h]

/-- Nor does what any number of steps return and do to the line. -/
lemma run_congr (h : w.sink = w'.sink) (steps : List Step) :
    (w.run steps).1 = (w'.run steps).1 ∧ (w.run steps).2.sink = (w'.run steps).2.sink := by
  induction steps generalizing w w' with
  | nil => exact ⟨rfl, h⟩
  | cons step steps ih =>
    obtain ⟨hresult, hsink⟩ := step_congr h step
    obtain ⟨hresults, hsinks⟩ := ih hsink
    simp only [run, hresult, hresults, hsinks, and_self]

/-- What is promised of the calls that a step with a wire image makes on a line, of what it returns,
and of the line after it. -/
structure Writes (s : Sink) (image : List UInt8) (calls : List Call) (r : Except Error Unit)
    (s' : Sink) : Prop where
  /-- These calls are all that happens to the line. -/
  line : Trace Sink.Makes s calls s'
  accepted : s'.accepted = s.accepted ++ takenBy calls
  writeCalls : s'.writeCalls = s.writeCalls + calls.countP Call.isWrite
  flushCalls : s'.flushCalls = s.flushCalls + calls.countP Call.isFlush
  /-- The step ends. -/
  ends : calls.length ≤ image.length + s.responses.length + s.flushes.length + 1
  /-- After any of the calls, the first bytes of the image are accepted. -/
  initial : ∀ n, takenBy (calls.take n) <+: image
  /-- A write offers exactly the bytes that were not accepted before it. -/
  offers : ∀ before offered o after, calls = before ++ .write offered o :: after →
    takenBy before ++ offered = image ∧ offered ≠ []
  /-- The line is flushed only when the whole image is accepted. -/
  flushes : ∀ before o after, calls = before ++ .flush o :: after → takenBy before = image
  /-- A call that was interrupted or would have blocked is made once more. -/
  repeats : ∀ before c f after, calls = before ++ c :: after → c.fault? = some f →
    f.kind = .interrupted ∨ f.kind = .wouldBlock → ∃ c' later, after = c' :: later ∧ c'.Repeats c
  /-- The step succeeds exactly if the whole image was accepted and a flush succeeded. -/
  ok : r = .ok () ↔ takenBy calls = image ∧ .flush (.ok ()) ∈ calls
  /-- The line is closed exactly if a write of the bytes that were left accepted none. -/
  closed : r = .error .closed ↔ ∃ offered, .write offered (.ok 0) ∈ calls
  /-- The fault of the step is the first one of a call that was not only held up. -/
  fault : ∀ f, r = .error (.fault f) ↔
    ((calls.filterMap Call.fault?).find? fun f => f.kind ≠ .interrupted ∧ f.kind ≠ .wouldBlock) =
      some f
  /-- There are no other errors. -/
  errors : ∀ e, r = .error e → e = .closed ∨ ∃ f, e = .fault f

lemma isTransient_iff (f : Fault) :
    f.isTransient = true ↔ f.kind = .interrupted ∨ f.kind = .wouldBlock := by
  rw [Fault.isTransient, Bool.or_eq_true, beq_iff_eq, beq_iff_eq]

lemma writes_of_runs {s s' : Sink} {image : List UInt8} {calls : List Call}
    {r : Except Error Unit} (h : Outlet.Runs s image calls r s') : Writes s image calls r s' := by
  obtain ⟨htrace, hcourse, hlength⟩ := h
  obtain ⟨haccepted, hwrites, hflushes⟩ := Sink.ledger_of_trace htrace
  constructor
  case line => exact htrace
  case accepted => exact haccepted
  case writeCalls => exact hwrites
  case flushCalls => exact hflushes
  case ends => exact hlength
  case initial =>
    intro n
    have hall := hcourse.takenBy_prefix
    rw [← List.take_append_drop n calls, takenBy_append] at hall
    exact (List.prefix_append _ _).trans hall
  case offers =>
    intro before offered o after heq
    obtain ⟨left, hleft, hrest⟩ := hcourse.split heq
    obtain ⟨rfl, hne⟩ := hrest.isDue
    exact ⟨hleft, hne⟩
  case flushes =>
    intro before o after heq
    obtain ⟨left, hleft, hrest⟩ := hcourse.split heq
    obtain rfl : left = [] := hrest.isDue
    rwa [List.append_nil] at hleft
  case repeats =>
    intro before c f after heq hf hkind
    obtain ⟨left, -, hrest⟩ := hcourse.split heq
    exact hrest.exists_repeats hf ((isTransient_iff f).2 hkind)
  case ok => exact hcourse.eq_ok_iff
  case closed => exact hcourse.eq_closed_iff
  case fault =>
    intro f
    rw [hcourse.eq_fault_iff]
    have hfinal (f : Fault) : (!f.isTransient) =
        decide (f.kind ≠ .interrupted ∧ f.kind ≠ .wouldBlock) := by
      rw [Bool.eq_iff_iff, decide_eq_true_iff, Bool.not_eq_true', ← Bool.not_eq_true,
        isTransient_iff, not_or]
    simp only [hfinal]
  case errors =>
    intro e he
    rw [he] at hcourse
    exact hcourse.eq_closed_or_fault

/-- A writer takes any step on any line: the line may accept parts, accept nothing, fail in any way
and any number of times, and its flushes may fail. A step with a wire image writes it from its first
byte on, no byte twice and none left out, and returns what the last of its calls on the line decides.
A packet of no bytes or of more than 255 is refused without a call, and whatever the writer does
next comes to the same as without it. -/
theorem exists_writes (w : Writer) (step : Step) :
    (∀ image, step.image = .ok image →
      ∃ calls, Writes w.sink image calls (w.step step).1 (w.step step).2.sink) ∧
    (∀ e, step.image = .error e →
      (w.step step).1 = .error e ∧ (w.step step).2.sink = w.sink ∧
      ∀ later, ((w.step step).2.run later).1 = (w.run later).1 ∧
        ((w.step step).2.run later).2.sink = (w.run later).2.sink) ∧
    ∀ p, ((Step.send p).image = .error .emptyPacket ↔ p.length = 0) ∧
      ((Step.send p).image = .error (.packetTooLong p.length 255) ↔ 255 < p.length) ∧
      ((∃ image, (Step.send p).image = .ok image) ↔ 1 ≤ p.length ∧ p.length ≤ 255) := by
  refine ⟨fun image himage => ?_, fun e he => ?_, fun p => ⟨?_, ?_, ?_⟩⟩
  · obtain ⟨calls, hruns⟩ := Outlet.exists_runs w.sink image
    rw [← step_of_image himage] at hruns
    exact ⟨calls, writes_of_runs hruns⟩
  · obtain ⟨hresult, hline⟩ := Prod.mk.inj (step_of_error (w := w) he)
    exact ⟨hresult, hline, fun later => run_congr hline later⟩
  · exact encode_eq_emptyPacket_iff
  · exact encode_eq_packetTooLong_iff
  · constructor
    · rintro ⟨image, himage⟩
      exact (encode_eq_ok_iff.1 himage).1
    · rintro ⟨h₁, h₂⟩
      exact ⟨_, encode_of_length h₁ h₂⟩

/-- The first frame is torn by an interruption and accepted up to its last byte, but its flush fails;
of the second one nothing is accepted after the marker, and the third packet has no frame. -/
example :
    let sink : Sink := {
      responses := [.accept 1, .fault (.ofKind .interrupted), .accept 9, .accept 1, .accept 0]
      flushes := [some (.ofKind .wouldBlock), some (.ofKind .brokenPipe)] }
    let after := ({ sink } : Writer).run [.send [0x72], .send [0x70, 0x01], .send []]
    after.1 = [.error (.fault (.ofKind .brokenPipe)), .error .closed, .error .emptyPacket] ∧
      after.2.sink.accepted = [0x80, 0x01, 0x72, 0x80] := by
  decide +kernel

end Writer

end Frame

end ControlNode
