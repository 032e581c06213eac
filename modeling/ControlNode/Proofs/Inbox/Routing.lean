import ControlNode.Inbox
import Mathlib.Tactic.SplitIfs

/-!
# Routing

What becomes of the state of an inbox when packets are routed, for each class of packets. After any
number of them, the mailbox holds the last answer, or what lay there before
(`Inbox.mailbox_routeAll`), and their measurements wait in the queue (`Inbox.queue_routeAll`).
-/

namespace ControlNode

/-! ### Answers -/

namespace Packet

/-- An answer has a tag, the high nibble of the tag is not F, and the tag is not EE. -/
def IsAnswer (p : Packet) : Prop :=
  ∃ tag rest, p = tag :: rest ∧ tag >>> 4 ≠ 0xF ∧ tag ≠ 0xEE

lemma highNibble_eq_iff (tag : UInt8) : tag &&& 0xF0 = 0xF0 ↔ tag >>> 4 = 0xF := by
  have h : ∀ b : BitVec 8, b &&& 0xF0 = 0xF0 ↔ b >>> 4 = 0xF := by decide +kernel
  simpa [← UInt8.toBitVec_inj] using h tag.toBitVec

lemma ofTag_eq_answer_iff (tag : UInt8) :
    Kind.ofTag tag = .answer ↔ tag >>> 4 ≠ 0xF ∧ tag ≠ 0xEE := by
  simp only [Kind.ofTag, highNibble_eq_iff]
  split_ifs with hnibble htag
  · simp [hnibble]
  · simp [htag, errorTag]
  · exact iff_of_true rfl ⟨hnibble, htag⟩

lemma kind?_eq_answer_iff (p : Packet) : p.kind? = some .answer ↔ p.IsAnswer := by
  cases p with
  | nil => simp [IsAnswer]
  | cons tag rest =>
    rw [kind?_cons, Option.some.injEq, ofTag_eq_answer_iff]
    constructor
    · intro h
      exact ⟨tag, rest, rfl, h⟩
    · rintro ⟨_, _, heq, h⟩
      obtain ⟨rfl, rfl⟩ := List.cons.inj heq
      exact h

instance : DecidablePred IsAnswer := fun p => decidable_of_iff _ (kind?_eq_answer_iff p)

end Packet

namespace Inbox

/-- The last answer among packets. -/
def lastAnswer? (ps : List Packet) : Option Packet :=
  (ps.filter fun p => p.IsAnswer).getLast?

lemma lastAnswer?_cons (p : Packet) (ps : List Packet) :
    lastAnswer? (p :: ps) = (lastAnswer? ps).or (if p.IsAnswer then some p else none) := by
  rw [lastAnswer?, lastAnswer?, List.getLast?_filter, List.getLast?_filter, List.reverse_cons,
    List.find?_append]
  by_cases h : p.IsAnswer <;> simp [h]

/-- A packet is the last answer among packets. -/
def IsLastAnswer (ps : List Packet) (a : Packet) : Prop :=
  ∃ before after, ps = before ++ a :: after ∧ a.IsAnswer ∧ ∀ p ∈ after, ¬ p.IsAnswer

lemma lastAnswer?_eq_some_iff {ps : List Packet} {a : Packet} :
    lastAnswer? ps = some a ↔ IsLastAnswer ps a := by
  rw [lastAnswer?, List.getLast?_filter, List.find?_eq_some_iff_append]
  simp only [decide_eq_true_eq, Bool.not_eq_true', decide_eq_false_iff_not]
  constructor
  · rintro ⟨ha, later, earlier, hps, hlater⟩
    refine ⟨earlier.reverse, later.reverse, ?_, ha, by simpa using hlater⟩
    rw [← List.reverse_reverse ps, hps]
    simp
  · rintro ⟨before, after, rfl, ha, hafter⟩
    exact ⟨ha, after.reverse, before.reverse, by simp, by simpa using hafter⟩

lemma isSome_lastAnswer?_iff {ps : List Packet} :
    (lastAnswer? ps).isSome = true ↔ ∃ p ∈ ps, p.IsAnswer := by
  simp [lastAnswer?]

/-! ### Routing one packet -/

variable {x : Inbox} {p : Packet}

lemma value_route_of_none (h : p.kind? = none) :
    (x.route p).value =
      { x with tally := { x.tally with emptyDropped := x.tally.emptyDropped + 1 } } := by
  simp [route, h]

lemma value_route_of_measurement (h : p.kind? = some .measurement) :
    (x.route p).value =
      { x with
        queue := x.queue ++ [p]
        tally := { x.tally with measurements := x.tally.measurements + 1 } } := by
  simp [route, h]

lemma value_route_of_errorReport (h : p.kind? = some .errorReport) :
    (x.route p).value =
      { x with tally := { x.tally with errorReports := x.tally.errorReports + 1 } } := by
  simp [route, h]

lemma value_route_of_answer (h : p.kind? = some .answer) :
    (x.route p).value =
      { x with
        mailbox := some p
        tally := { x.tally with
          answers := x.tally.answers + 1
          staleOverwritten := x.tally.staleOverwritten + if x.mailbox.isSome then 1 else 0 } } := by
  cases hm : x.mailbox <;> simp [route, h, deliver, hm]

/-- The counts of answers depend on answers only. -/
lemma tally_route_of_not_isAnswer (h : ¬ p.IsAnswer) :
    (x.route p).value.tally.answers = x.tally.answers ∧
      (x.route p).value.tally.staleOverwritten = x.tally.staleOverwritten ∧
      (x.route p).value.tally.staleDrained = x.tally.staleDrained := by
  match hkind : p.kind? with
  | none => simp [value_route_of_none hkind]
  | some .measurement => simp [value_route_of_measurement hkind]
  | some .errorReport => simp [value_route_of_errorReport hkind]
  | some .answer => exact absurd (Packet.kind?_eq_answer_iff p |>.1 hkind) h

lemma mailbox_route (x : Inbox) (p : Packet) :
    (x.route p).value.mailbox = if p.IsAnswer then some p else x.mailbox := by
  simp only [← Packet.kind?_eq_answer_iff]
  match h : p.kind? with
  | none => simp [value_route_of_none h]
  | some .measurement => simp [value_route_of_measurement h]
  | some .errorReport => simp [value_route_of_errorReport h]
  | some .answer => simp [value_route_of_answer h]

lemma queue_route (x : Inbox) (p : Packet) :
    (x.route p).value.queue = x.queue ++ if p.kind? = some .measurement then [p] else [] := by
  match h : p.kind? with
  | none => simp [value_route_of_none h]
  | some .measurement => simp [value_route_of_measurement h]
  | some .errorReport => simp [value_route_of_errorReport h]
  | some .answer => simp [value_route_of_answer h]

/-! ### Routing any number of packets -/

@[simp] lemma value_routeAll_cons (x : Inbox) (p : Packet) (ps : List Packet) :
    (x.routeAll (p :: ps)).value = ((x.route p).value.routeAll ps).value := rfl

lemma value_routeAll_append (x : Inbox) (ps later : List Packet) :
    (x.routeAll (ps ++ later)).value = ((x.routeAll ps).value.routeAll later).value := by
  induction ps generalizing x with
  | nil => rfl
  | cons p ps ih =>
    rw [List.cons_append, value_routeAll_cons, value_routeAll_cons, ih]

/-- What routing a packet keeps up, routing any number of packets keeps up. -/
lemma routeAll_induction {P : List Packet → Inbox → Prop}
    (hroute : ∀ {routed : List Packet} {x : Inbox} (p : Packet), P routed x →
      P (routed ++ [p]) (x.route p).value)
    {routed : List Packet} {x : Inbox} (h : P routed x) (ps : List Packet) :
    P (routed ++ ps) (x.routeAll ps).value := by
  induction ps generalizing routed x with
  | nil =>
    rw [List.append_nil]
    exact h
  | cons p ps ih =>
    rw [value_routeAll_cons, List.append_cons]
    exact ih (hroute p h)

/-- After routing, the mailbox holds the last answer, or what it held before if there is none. -/
theorem mailbox_routeAll (x : Inbox) (ps : List Packet) :
    (x.routeAll ps).value.mailbox = (lastAnswer? ps).or x.mailbox := by
  induction ps generalizing x with
  | nil => rfl
  | cons p ps ih =>
    rw [value_routeAll_cons, ih, mailbox_route, lastAnswer?_cons, Option.or_assoc]
    split <;> rfl

/-- Routing adds the measurements to the queue, in their order, and takes nothing out. -/
theorem queue_routeAll (x : Inbox) (ps : List Packet) :
    (x.routeAll ps).value.queue =
      x.queue ++ ps.filter fun p => p.kind? = some .measurement := by
  induction ps generalizing x with
  | nil => exact (List.append_nil _).symm
  | cons p ps ih =>
    rw [value_routeAll_cons, ih, queue_route, List.append_assoc, List.filter_cons]
    by_cases h : p.kind? = some .measurement <;> simp [h]

end Inbox

end ControlNode
