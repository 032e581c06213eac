import ControlNode.Proofs.Frame.Feed

/-!
# Histories of a decoder

Bytes are pushed and fed to a decoder, packets are taken from it, and it is reset, in any order.
Whatever its history, a length that it waits for is one that a length byte can announce
(`Decoder.isSound_run`). What operations return does not depend on what was counted before them
(`Decoder.counting_run`), so a decoder that was reset goes on as a new one.
-/

namespace ControlNode.Frame

/-! ### Phases and what waits in them -/

namespace Phase

/-- Whether bytes can lead to a phase: the length byte of a packet that is awaited is not zero. -/
def IsSound : Phase → Prop
  | awaitPacket n => 1 ≤ n ∧ n ≤ 255
  | _ => True

/-- Whether bytes can wait in a phase: only those of a packet that is not complete. -/
def Holds : Phase → List UInt8 → Prop
  | awaitPacket n, bytes => bytes.length < n
  | _, bytes => bytes = []

end Phase

lemma isSound_scan {phase : Phase} (h : phase.IsSound) (bytes : List UInt8) :
    (scan phase bytes).phase.IsSound := by
  fun_induction scan phase bytes with
  | case1 length bytes hle => trivial
  | case2 length bytes hle => exact h
  | case3 phase hphase => exact h
  | case4 bytes ih => exact ih trivial
  | case5 b bytes hb ih =>
    rw [Scan.phase_consNoise]
    exact ih trivial
  | case6 bytes ih => exact ih trivial
  | case7 b bytes hb ih =>
    have hpos : b.toNat ≠ 0 := fun hzero => hb (UInt8.toNat_inj.1 hzero)
    exact ih ⟨Nat.one_le_iff_ne_zero.2 hpos, Nat.le_of_lt_succ b.toNat_lt⟩

/-- A scan that finds no packet leaves only bytes of a packet that is not complete. -/
lemma holds_scan {phase : Phase} {bytes : List UInt8} (h : (scan phase bytes).packet? = none) :
    (scan phase bytes).phase.Holds (scan phase bytes).rest := by
  fun_induction scan phase bytes with
  | case1 length bytes hle => cases h
  | case2 length bytes hle => exact Nat.not_le.1 hle
  | case3 phase hphase =>
    cases phase with
    | seekSync => rfl
    | awaitLength => rfl
    | awaitPacket length => exact absurd rfl (hphase length)
  | case4 bytes ih => exact ih h
  | case5 b bytes hb ih =>
    rw [Scan.packet?_consNoise] at h
    rw [Scan.phase_consNoise, Scan.rest_consNoise]
    exact ih h
  | case6 bytes ih => exact ih h
  | case7 b bytes hb ih => exact ih h

namespace Decoder

/-! ### Operations -/

/-- An operation on a decoder. -/
inductive Op where
  | push (bytes : List UInt8)
  | next
  | feed (bytes : List UInt8)
  | reset

/-- The bytes that an operation hands to the decoder. -/
def Op.bytes : Op → List UInt8
  | .push bytes => bytes
  | .feed bytes => bytes
  | .next => []
  | .reset => []

/-- The bytes that a history hands to the decoder. -/
def pushed (ops : List Op) : List UInt8 := ops.flatMap Op.bytes

/-- Performs an operation, and returns the packets that it takes. -/
def perform (d : Decoder) : Op → Logged (List Packet × Decoder)
  | .push bytes => pure ([], d.push bytes)
  | .next => do
    let (p, d) ← d.next
    return (p.toList, d)
  | .feed bytes => d.feed bytes
  | .reset => pure ([], d.reset)

/-- Performs the operations of a history; for each of them there is a list of packets. -/
def run (d : Decoder) : List Op → Logged (List (List Packet) × Decoder)
  | [] => pure ([], d)
  | op :: ops => do
    let (packets, d) ← d.perform op
    let (later, d) ← d.run ops
    return (packets :: later, d)

variable (d : Decoder)

lemma value_run_cons (op : Op) (ops : List Op) :
    (d.run (op :: ops)).value =
      ((d.perform op).value.1 :: ((d.perform op).value.2.run ops).value.1,
        ((d.perform op).value.2.run ops).value.2) := rfl

lemma log_run_cons (op : Op) (ops : List Op) :
    (d.run (op :: ops)).log = (d.perform op).log ++ ((d.perform op).value.2.run ops).log := by
  rw [run, Logged.log_bind, Logged.log_bind, Logged.log_pure, List.append_nil]

lemma value_perform_next : (d.perform .next).value = (d.next.value.1.toList, d.next.value.2) := rfl

/-- What holds of taking no packet, and of taking one packet before others, holds of taking all
packets. -/
lemma drain_induction {P : Decoder → List Packet → Decoder → Prop}
    (last : ∀ {d d' : Decoder}, d.next.value = (none, d') → P d [] d')
    (before : ∀ {d d' e : Decoder} {p : Packet} {ps : List Packet},
      d.next.value = (some p, d') → P d' ps e → P d (p :: ps) e) (d : Decoder) :
    P d d.drain.value.1 d.drain.value.2 := by
  rcases h : d.next.value with ⟨_ | p, d'⟩
  · rw [drain_of_none h]
    exact last h
  · rw [drain_of_some h]
    exact before h (drain_induction last before d')
termination_by d.weight
decreasing_by exact weight_next_lt h

/-! ### The phase after a history -/

variable {d}

lemma isSound_next (h : d.phase.IsSound) : d.next.value.2.phase.IsSound := by
  rw [value_next]
  exact isSound_scan h d.buffer

lemma isSound_drain (h : d.phase.IsSound) : d.drain.value.2.phase.IsSound := by
  revert h
  apply drain_induction (P := fun d _ e => d.phase.IsSound → e.phase.IsSound)
  · intro d d' hnext h
    have hsound := isSound_next h
    rwa [hnext] at hsound
  · intro d d' e p ps hnext ih h
    have hsound := isSound_next h
    rw [hnext] at hsound
    exact ih hsound

lemma isSound_perform (h : d.phase.IsSound) (op : Op) : (d.perform op).value.2.phase.IsSound := by
  cases op with
  | push bytes => exact h
  | next => exact isSound_next h
  | feed bytes =>
    have hpush : (d.push bytes).phase.IsSound := h
    exact isSound_drain hpush
  | reset => trivial

theorem isSound_run (h : d.phase.IsSound) (ops : List Op) :
    (d.run ops).value.2.phase.IsSound := by
  induction ops generalizing d with
  | nil => exact h
  | cons op ops ih => exact ih (isSound_perform h op)

/-- The decoder that a new one is after a history. -/
def after (ops : List Op) : Decoder := (({} : Decoder).run ops).value.2

lemma isSound_after (ops : List Op) : (after ops).phase.IsSound := by
  have hnew : ({} : Decoder).phase.IsSound := trivial
  exact isSound_run hnew ops

/-- When a decoder was asked in vain, only bytes of a packet that is not complete wait in it. -/
lemma holds_of_next {d' : Decoder} (h : d.next.value = (none, d')) :
    d'.phase.Holds d'.buffer := by
  rw [value_next, Prod.mk.injEq] at h
  obtain ⟨hnone, rfl⟩ := h
  exact holds_scan hnone

/-! ### Counts from before -/

/-- The decoder that had counted `t` before. -/
def count (t : Tally) (d : Decoder) : Decoder := { d with tally := t + d.tally }

lemma reset_eq_count (d : Decoder) : d.reset = ({} : Decoder).count d.tally := rfl

/-- The second way of working does what the first one does, on a decoder that had counted `t`
before. -/
structure Counting {α : Type} (t : Tally) (x y : Logged (α × Decoder)) : Prop where
  value : y.value = (x.value.1, x.value.2.count t)
  log : y.log = x.log

variable (t : Tally)

lemma counting_next (d : Decoder) : Counting t d.next (d.count t).next := by
  constructor
  · rw [value_next, value_next]
    simp only [count, add_assoc]
  · rfl

lemma log_drain_of_none {d' : Decoder} (h : d.next.value = (none, d')) :
    d.drain.log = d.next.log := by
  rw [drain]
  split <;> simp_all

lemma log_drain_of_some {d' : Decoder} {p : Packet} (h : d.next.value = (some p, d')) :
    d.drain.log = d.next.log ++ d'.drain.log := by
  rw [drain]
  split <;> simp_all

lemma counting_drain (d : Decoder) : Counting t d.drain (d.count t).drain := by
  obtain ⟨hvalue, hlog⟩ := counting_next t d
  rcases h : d.next.value with ⟨_ | p, d'⟩
  · rw [h] at hvalue
    constructor
    · rw [drain_of_none h, drain_of_none hvalue]
    · rw [log_drain_of_none h, log_drain_of_none hvalue, hlog]
  · rw [h] at hvalue
    obtain ⟨ihvalue, ihlog⟩ := counting_drain d'
    constructor
    · rw [drain_of_some h, drain_of_some hvalue, ihvalue]
    · rw [log_drain_of_some h, log_drain_of_some hvalue, hlog, ihlog]
termination_by d.weight
decreasing_by exact weight_next_lt h

lemma counting_perform (d : Decoder) (op : Op) :
    Counting t (d.perform op) ((d.count t).perform op) := by
  cases op with
  | push bytes => exact ⟨rfl, rfl⟩
  | next =>
    obtain ⟨hvalue, hlog⟩ := counting_next t d
    constructor
    · rw [value_perform_next, value_perform_next, hvalue]
    · rw [perform, perform, Logged.log_bind, Logged.log_bind, hlog]
      rfl
  | feed bytes => exact counting_drain t (d.push bytes)
  | reset => exact ⟨rfl, rfl⟩

/-- What was counted before a history has no part in what it returns and reports, nor in the phase
and the bytes it leaves. -/
theorem counting_run (d : Decoder) (ops : List Op) :
    Counting t (d.run ops) ((d.count t).run ops) := by
  induction ops generalizing d with
  | nil => exact ⟨rfl, rfl⟩
  | cons op ops ih =>
    obtain ⟨hvalue, hlog⟩ := counting_perform t d op
    obtain ⟨ihvalue, ihlog⟩ := ih (d.perform op).value.2
    constructor
    · rw [value_run_cons, value_run_cons, hvalue, ihvalue]
    · rw [log_run_cons, log_run_cons, hvalue, hlog, ihlog]

end Decoder

end ControlNode.Frame
