import ControlNode.Proofs.Inbox.Interleaving
import ControlNode.Proofs.Inbox.Separation

/-!
# The queue of measurements

Measurements wait in the queue in the order in which they arrived, and whoever takes one takes the
oldest. So those that were taken, by any number of takers, and those that wait are together the
measurements that were routed, each of them once. This holds after every history of an inbox, and it
holds at every step of the threads that share one (`measurements_in_order`).
-/

namespace ControlNode

/-! ### Measurements -/

namespace Packet

/-- A measurement has a tag, and the high nibble of the tag is F. -/
def IsMeasurement (p : Packet) : Prop :=
  ∃ tag rest, p = tag :: rest ∧ tag >>> 4 = 0xF

lemma ofTag_eq_measurement_iff (tag : UInt8) :
    Kind.ofTag tag = .measurement ↔ tag >>> 4 = 0xF := by
  simp only [Kind.ofTag, highNibble_eq_iff]
  split_ifs with hnibble htag
  · simp [hnibble]
  · simp [hnibble]
  · simp [hnibble]

lemma kind?_eq_measurement_iff (p : Packet) : p.kind? = some .measurement ↔ p.IsMeasurement := by
  cases p with
  | nil => simp [IsMeasurement]
  | cons tag rest =>
    rw [kind?_cons, Option.some.injEq, ofTag_eq_measurement_iff]
    constructor
    · intro h
      exact ⟨tag, rest, rfl, h⟩
    · rintro ⟨_, _, heq, h⟩
      obtain ⟨rfl, rfl⟩ := List.cons.inj heq
      exact h

instance : DecidablePred IsMeasurement := fun p =>
  decidable_of_iff _ (kind?_eq_measurement_iff p)

lemma IsAnswer.not_isMeasurement {p : Packet} (h : p.IsAnswer) : ¬ p.IsMeasurement := by
  rw [← kind?_eq_measurement_iff, (kind?_eq_answer_iff p).2 h]
  simp

end Packet

namespace Inbox

/-- The measurements among packets, in their order. -/
def measurements (ps : List Packet) : List Packet := ps.filter fun p => p.IsMeasurement

lemma measurements_append (ps later : List Packet) :
    measurements (ps ++ later) = measurements ps ++ measurements later :=
  List.filter_append ps later

/-- What has become of the measurements when packets were routed and some were taken, both given
from the first to the last. -/
structure InOrder (routed taken : List Packet) (x : Inbox) : Prop where
  /-- Those taken, followed by those that wait, are the measurements that were routed. -/
  kept : taken ++ x.queue = measurements routed
  counted : x.tally.measurements = (measurements routed).length

namespace InOrder

variable {routed taken : List Packet} {x y : Inbox}

lemma new : InOrder [] [] {} := ⟨rfl, rfl⟩

/-- Nothing but the side of the measurements matters. -/
lemma congr (h : InOrder routed taken x) (hxy : x.measureSide = y.measureSide) :
    InOrder routed taken y := by
  obtain ⟨hqueue, hcount⟩ := measureSide_inj.1 hxy
  exact ⟨hqueue ▸ h.kept, hcount ▸ h.counted⟩

lemma route (h : InOrder routed taken x) (p : Packet) :
    InOrder (routed ++ [p]) taken (x.route p).value := by
  by_cases hp : p.IsMeasurement
  · have hrouted : measurements (routed ++ [p]) = measurements routed ++ [p] := by
      rw [measurements_append]
      simp [measurements, hp]
    rw [value_route_of_measurement ((Packet.kind?_eq_measurement_iff p).2 hp)]
    constructor
    · rw [hrouted, ← h.kept, List.append_assoc]
    · rw [hrouted, List.length_append, ← h.counted]
      rfl
  · have hrouted : measurements (routed ++ [p]) = measurements routed := by
      rw [measurements_append]
      simp [measurements, hp]
    have hside : (x.route p).value.measureSide = x.measureSide := by
      apply belongs_measureSide.respects
      rwa [ne_eq, Packet.kind?_eq_measurement_iff]
    exact congr ⟨hrouted ▸ h.kept, hrouted ▸ h.counted⟩ hside.symm

lemma routeAll (h : InOrder routed taken x) (ps : List Packet) :
    InOrder (routed ++ ps) taken (x.routeAll ps).value :=
  routeAll_induction (P := (InOrder · taken)) (fun p h => h.route p) h ps

/-- Whoever takes a measurement takes the oldest that waits. -/
lemma receive {p : Packet} {queue : List Packet} (h : InOrder routed taken x)
    (hqueue : x.queue = p :: queue) : InOrder routed (taken ++ [p]) { x with queue } := by
  refine ⟨?_, h.counted⟩
  rw [← h.kept, hqueue, ← List.append_cons]

/-- What the next taker gets is the oldest measurement that was not taken yet. -/
lemma head?_queue (h : InOrder routed taken x) :
    x.queue.head? = (measurements routed)[taken.length]? := by
  rw [← h.kept, List.getElem?_append_right (Nat.le_refl _), Nat.sub_self, List.head?_eq_getElem?]

/-- Nothing but measurements is taken or waits. -/
lemma isMeasurement (h : InOrder routed taken x) : ∀ p ∈ taken ++ x.queue, p.IsMeasurement := by
  intro p hp
  rw [h.kept, measurements, List.mem_filter] at hp
  simpa using hp.2

end InOrder

/-! ### Histories with takers -/

/-- The packet that a taker is given. -/
def Reply.taken? : Reply → Option Packet
  | .received p => p
  | .routed | .sent _ _ => none

section

variable {ι : Type}

/-- Which taker was given which packet, from the first to the last. Who does the operations that
are no receptions is of no account. -/
def takings (takers : List ι) (replies : List Reply) : List (ι × Packet) :=
  (takers.zip replies).filterMap fun (i, reply) => reply.taken?.map fun p => (i, p)

lemma map_takings {takers : List ι} {replies : List Reply}
    (h : takers.length = replies.length) :
    (takings takers replies).map Prod.snd = replies.filterMap Reply.taken? := by
  induction takers generalizing replies with
  | nil =>
    rw [List.length_eq_zero_iff.1 h.symm]
    rfl
  | cons i takers ih =>
    cases replies with
    | nil => cases h
    | cons reply replies =>
      have hlater := ih (Nat.succ.inj h)
      cases hreply : reply.taken? with
      | none => simpa [takings, hreply] using hlater
      | some p => simpa [takings, hreply] using hlater

namespace InOrder

variable {routed taken : List Packet} {x : Inbox}

lemma step (h : InOrder routed taken x) (timeout : Duration) (op : Op) :
    let done := (x.step timeout op).value
    InOrder (routed ++ op.routed) (taken ++ done.1.taken?.toList) done.2 := by
  intro done
  cases op with
  | route p =>
    have hrouted := h.route p
    rwa [← List.append_nil taken] at hrouted
  | send command during failure =>
    have hrouted := (h.routeAll (Op.send command during failure).routed).congr
      (measureSide_step_send timeout x command during failure).symm
    rwa [← List.append_nil taken] at hrouted
  | receive =>
    rw [show done = (.received x.queue.head?, { x with queue := x.queue.tail }) from
      value_step_receive timeout x, Op.routed, List.append_nil]
    cases hqueue : x.queue with
    | nil =>
      rw [← List.append_nil taken] at h
      exact h.congr (measureSide_inj.2 ⟨hqueue, rfl⟩)
    | cons p queue => exact h.receive hqueue

lemma run (h : InOrder routed taken x) (timeout : Duration) (history : List Op) :
    let done := (Inbox.run timeout x history).value
    InOrder (routed ++ history.flatMap Op.routed) (taken ++ done.1.filterMap Reply.taken?)
      done.2 :=
  run_induction (fun op h => h.step timeout op) h history

end InOrder

end

/-! ### Threads -/

namespace Threads

variable {ι : Type}

/-- The packet that the courier begins to route. -/
def Event.routed? : Event ι → Option Packet
  | sort p => some p
  | accept l => some l.packet
  | _ => none

def Event.collected? : Event ι → Option Packet
  | collect p => some p
  | _ => none

/-- The packets that the courier has routed, from the first to the last. -/
def routed (τ : List (Event ι)) : List Packet := (τ.filterMap Event.routed?).reverse

/-- The packets that were taken out of the queue, from the first to the last. -/
def collected (τ : List (Event ι)) : List Packet := (τ.filterMap Event.collected?).reverse

lemma routed_cons (e : Event ι) (τ : List (Event ι)) :
    routed (e :: τ) = routed τ ++ e.routed?.toList := by
  rw [routed, filterMap_cons_toList, List.reverse_append, ← routed]
  cases e.routed? <;> rfl

lemma collected_cons (e : Event ι) (τ : List (Event ι)) :
    collected (e :: τ) = collected τ ++ e.collected?.toList := by
  rw [collected, filterMap_cons_toList, List.reverse_append, ← collected]
  cases e.collected? <;> rfl

variable [DecidableEq ι]

/-- A step of any thread keeps the order. -/
lemma inOrder_step {routed taken : List Packet} {s s' : State ι} {e : Event ι}
    (h : InOrder routed taken s.view) (step : Step s e s') :
    InOrder (routed ++ e.routed?.toList) (taken ++ e.collected?.toList) s'.view := by
  -- Most steps neither route a packet nor take one.
  have hother (hside : s.view.measureSide = s'.view.measureSide) :
      InOrder (routed ++ []) (taken ++ []) s'.view := by
    rw [List.append_nil, List.append_nil]
    exact h.congr hside
  cases step with
  | @sort p hc hp =>
    rw [← List.append_nil taken] at h
    exact (h.route p).congr rfl
  | @accept p hc hp =>
    -- An answer does not come into the queue.
    have hside : (s.view.route p).value.measureSide = s.view.measureSide := by
      apply belongs_measureSide.respects
      rw [ne_eq, Packet.kind?_eq_measurement_iff]
      exact hp.not_isMeasurement
    rw [← List.append_nil taken] at h
    exact (h.route p).congr hside
  | @collect p queue hq =>
    rw [← List.append_nil routed] at h
    exact (InOrder.receive h hq).congr rfl
  | _ => exact hother rfl

lemma inOrder_of_run {τ : List (Event ι)} {s : State ι} (h : Run τ s) :
    InOrder (routed τ) (collected τ) s.view := by
  induction h with
  | nil => exact InOrder.new
  | @cons τ s₁ s₂ e run step ih =>
    rw [routed_cons, collected_cons]
    exact inOrder_step ih step

end Threads

/-- After any history of an inbox, the measurements that its takers were given, one after the
other, followed by those that wait, are the measurements among the packets that were routed, by
themselves or while a command was sent; the next taker is given the first one that is left. The
same holds at every moment of the threads that share an inbox, where a measurement can be taken
between any two steps of a command. -/
theorem measurements_in_order {ι : Type} [DecidableEq ι] (timeout : Duration) :
    (∀ history : List (ι × Op),
      let done := (run timeout {} (history.map Prod.snd)).value
      let routed := (history.map Prod.snd).flatMap Op.routed
      let taken := (takings (history.map Prod.fst) done.1).map Prod.snd
      InOrder routed taken done.2 ∧
      (∀ p ∈ taken ++ done.2.queue, p.IsMeasurement) ∧
      done.2.receive.1 = (measurements routed)[taken.length]?) ∧
    (∀ (τ : List (Threads.Event ι)) (s : Threads.State ι), Threads.Run τ s →
      InOrder (Threads.routed τ) (Threads.collected τ) s.view) := by
  constructor
  · intro history done routed taken
    have htaken : taken = done.1.filterMap Reply.taken? := by
      apply map_takings
      rw [length_replies, List.length_map, List.length_map]
    have h : InOrder routed taken done.2 := htaken ▸ InOrder.new.run timeout (history.map Prod.snd)
    refine ⟨h, h.isMeasurement, ?_⟩
    rw [← h.head?_queue, Inbox.receive]
    cases done.2.queue <;> rfl
  · intro τ s h
    exact Threads.inOrder_of_run h

end Inbox

end ControlNode
