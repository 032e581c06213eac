import ControlNode.Proofs.Inbox.Separation
import ControlNode.Proofs.Inbox.Sequential
import Mathlib.Order.Basic

/-!
# Conservation of packets

Every packet that is routed is counted once, by its class, and every answer is accounted for: it was
returned, displaced by a newer one, dropped before a command, or it lies in the mailbox. Routing and
sending keep this balance at each of their steps (`Accounted`), and no count ever decreases, so it
holds after every history and in the middle of every command (`counts_over_history`).
-/

namespace ControlNode.Inbox

/-! ### Tallies -/

namespace Tally

/-- How many packets of a class have arrived; packets without a class are empty. -/
def arrived (t : Tally) : Option Packet.Kind → Nat
  | none => t.emptyDropped
  | some .measurement => t.measurements
  | some .errorReport => t.errorReports
  | some .answer => t.answers

/-- No count of the one tally is above that of the other. -/
structure AtMost (t t' : Tally) : Prop where
  arrived : ∀ kind, t.arrived kind ≤ t'.arrived kind
  staleOverwritten : t.staleOverwritten ≤ t'.staleOverwritten
  staleDrained : t.staleDrained ≤ t'.staleDrained

instance : Preorder Tally where
  le := AtMost
  le_refl t := ⟨fun _ => Nat.le_refl _, Nat.le_refl _, Nat.le_refl _⟩
  le_trans t t' t'' h h' :=
    ⟨fun kind => Nat.le_trans (h.arrived kind) (h'.arrived kind),
      Nat.le_trans h.staleOverwritten h'.staleOverwritten,
      Nat.le_trans h.staleDrained h'.staleDrained⟩

/-- The tally in which all counts are the same. -/
def uniform (n : Nat) : Tally := ⟨n, n, n, n, n, n⟩

@[simp] lemma arrived_uniform (n : Nat) (kind : Option Packet.Kind) :
    (uniform n).arrived kind = n := by
  match kind with
  | none => rfl
  | some .measurement => rfl
  | some .errorReport => rfl
  | some .answer => rfl

end Tally

/-- Every packet belongs to one class, or is empty. -/
lemma length_eq_countP_kinds (ps : List Packet) :
    ps.length = ps.countP (·.kind? = some .measurement) + ps.countP (·.kind? = some .answer) +
      ps.countP (·.kind? = some .errorReport) + ps.countP (·.kind? = none) := by
  induction ps with
  | nil => rfl
  | cons p ps ih =>
    simp only [List.length_cons, List.countP_cons, ih]
    match h : p.kind? with
    | none => simp; omega
    | some .measurement => simp; omega
    | some .errorReport => simp; omega
    | some .answer => simp; omega

/-! ### The balance -/

/-- What the counts say when packets were routed and answers returned. -/
structure Accounted (routed returned : List Packet) (x : Inbox) : Prop where
  arrived : ∀ kind, x.tally.arrived kind = routed.countP (·.kind? = kind)
  answers : x.tally.answers = returned.length + x.tally.staleOverwritten + x.tally.staleDrained +
    if x.mailbox.isSome then 1 else 0

variable {routed returned : List Packet} {x : Inbox}

lemma arrived_route (x : Inbox) (p : Packet) (kind : Option Packet.Kind) :
    (x.route p).value.tally.arrived kind =
      x.tally.arrived kind + if p.kind? = kind then 1 else 0 := by
  match hp : p.kind?, kind with
  | none, kind =>
    rw [value_route_of_none hp]
    rcases kind with _ | _ | _ | _ <;> rfl
  | some .measurement, kind =>
    rw [value_route_of_measurement hp]
    rcases kind with _ | _ | _ | _ <;> rfl
  | some .errorReport, kind =>
    rw [value_route_of_errorReport hp]
    rcases kind with _ | _ | _ | _ <;> rfl
  | some .answer, kind =>
    rw [value_route_of_answer hp]
    rcases kind with _ | _ | _ | _ <;> rfl

/-- Routing takes nothing back. -/
lemma tally_le_route (x : Inbox) (p : Packet) : x.tally ≤ (x.route p).value.tally := by
  have harrived (kind : Option Packet.Kind) :
      x.tally.arrived kind ≤ (x.route p).value.tally.arrived kind := by
    rw [arrived_route]
    exact Nat.le_add_right _ _
  by_cases hp : p.IsAnswer
  · refine ⟨harrived, ?_, ?_⟩
    · rw [value_route_of_answer ((Packet.kind?_eq_answer_iff p).2 hp)]
      exact Nat.le_add_right _ _
    · apply Nat.le_of_eq
      rw [value_route_of_answer ((Packet.kind?_eq_answer_iff p).2 hp)]
  · obtain ⟨-, hoverwritten, hdrained⟩ := tally_route_of_not_isAnswer (x := x) hp
    exact ⟨harrived, Nat.le_of_eq hoverwritten.symm, Nat.le_of_eq hdrained.symm⟩

lemma tally_le_routeAll (x : Inbox) (ps : List Packet) :
    x.tally ≤ (x.routeAll ps).value.tally := by
  induction ps generalizing x with
  | nil => exact le_refl _
  | cons p ps ih =>
    rw [value_routeAll_cons]
    exact le_trans (tally_le_route x p) (ih (x.route p).value)

lemma tally_le_discardStale (x : Inbox) : x.tally ≤ x.discardStale.value.tally := by
  rw [value_discardStale]
  refine ⟨fun kind => ?_, Nat.le_refl _, Nat.le_add_right _ _⟩
  rcases kind with _ | _ | _ | _ <;> exact Nat.le_refl _

lemma tally_settle {σ : Type} (w : Except Frame.Error Unit) (line : σ) (x : Inbox) :
    (settle w line x).2.2.tally = x.tally := by
  cases w <;> rfl

namespace Accounted

lemma new : Accounted [] [] {} := by
  refine ⟨fun kind => ?_, rfl⟩
  rcases kind with _ | _ | _ | _ <;> rfl

lemma route (h : Accounted routed returned x) (p : Packet) :
    Accounted (routed ++ [p]) returned (x.route p).value := by
  constructor
  · intro kind
    rw [arrived_route, h.arrived, List.countP_append, List.countP_singleton]
    simp
  · have hanswers := h.answers
    by_cases hp : p.IsAnswer
    · -- The answer replaces the one that lies in the mailbox, if any.
      rw [value_route_of_answer ((Packet.kind?_eq_answer_iff p).2 hp)]
      simp only [Option.isSome_some, if_true]
      omega
    · obtain ⟨hcount, hoverwritten, hdrained⟩ := tally_route_of_not_isAnswer (x := x) hp
      rw [hcount, hoverwritten, hdrained, mailbox_route, if_neg hp]
      exact hanswers

lemma routeAll (h : Accounted routed returned x) (ps : List Packet) :
    Accounted (routed ++ ps) returned (x.routeAll ps).value :=
  routeAll_induction (P := (Accounted · returned)) (fun p h => h.route p) h ps

lemma discardStale (h : Accounted routed returned x) :
    Accounted routed returned x.discardStale.value := by
  have hanswers := h.answers
  rw [value_discardStale]
  constructor
  · intro kind
    rw [← h.arrived]
    rcases kind with _ | _ | _ | _ <;> rfl
  · simp only [Option.isSome_none, Bool.false_eq_true, if_false]
    omega

/-- An answer that is returned leaves the mailbox. -/
lemma settle {σ : Type} (h : Accounted routed returned x) (w : Except Frame.Error Unit)
    (line : σ) :
    let settled := Inbox.settle w line x
    Accounted routed (returned ++ settled.1.toList) settled.2.2 := by
  cases w with
  | error e =>
    rw [← List.append_nil returned] at h
    exact h
  | ok =>
    have hanswers := h.answers
    refine ⟨h.arrived, ?_⟩
    cases hm : x.mailbox with
    | none => simpa [Inbox.settle, hm] using hanswers
    | some a =>
      simp only [hm, Option.isSome_some, if_true] at hanswers
      simp [Inbox.settle, hm]
      omega

/-- The balance is kept by each operation. -/
lemma step (h : Accounted routed returned x) (timeout : Duration) (op : Op) :
    let done := (x.step timeout op).value
    Accounted (routed ++ op.routed) (returned ++ done.1.answer?.toList) done.2 := by
  intro done
  cases op with
  | route p =>
    have hrouted := h.route p
    rwa [← List.append_nil returned] at hrouted
  | send command during failure =>
    by_cases hframed : 1 ≤ command.length ∧ command.length ≤ 255
    · rw [show done = _ from value_step_send_of_framed timeout x hframed, Op.routed,
        if_pos hframed]
      exact (h.discardStale.routeAll during).settle _ _
    · have hdiscarded := h.discardStale
      rw [show done = _ from value_step_send_of_not_framed timeout x hframed, Op.routed,
        if_neg hframed, List.append_nil]
      rwa [← List.append_nil returned] at hdiscarded
  | receive =>
    rw [show done = _ from value_step_receive timeout x, Op.routed, List.append_nil]
    rw [← List.append_nil returned] at h
    exact ⟨h.arrived, h.answers⟩

lemma run (h : Accounted routed returned x) (timeout : Duration) (history : List Op) :
    let done := (Inbox.run timeout x history).value
    Accounted (routed ++ history.flatMap Op.routed)
      (returned ++ done.1.filterMap Reply.answer?) done.2 :=
  run_induction (fun op h => h.step timeout op) h history

/-- No count is above the number of packets that were routed. -/
lemma tally_le (h : Accounted routed returned x) : x.tally ≤ .uniform routed.length := by
  have hanswers := h.answers
  have hle (kind : Option Packet.Kind) : x.tally.arrived kind ≤ routed.length := by
    rw [h.arrived]
    exact List.countP_le_length
  have hle_answers : x.tally.answers ≤ routed.length := hle (some .answer)
  refine ⟨fun kind => ?_, ?_, ?_⟩
  · rw [Tally.arrived_uniform]
    exact hle kind
  · show x.tally.staleOverwritten ≤ routed.length
    omega
  · show x.tally.staleDrained ≤ routed.length
    omega

end Accounted

/-! ### Counts over a history -/

lemma tally_le_step (timeout : Duration) (x : Inbox) (op : Op) :
    x.tally ≤ (x.step timeout op).value.2.tally := by
  cases op with
  | route p => exact tally_le_route x p
  | send command during failure =>
    by_cases hframed : 1 ≤ command.length ∧ command.length ≤ 255
    · rw [value_step_send_of_framed timeout x hframed, tally_settle]
      exact le_trans (tally_le_discardStale x) (tally_le_routeAll _ during)
    · rw [value_step_send_of_not_framed timeout x hframed]
      exact tally_le_discardStale x
  | receive =>
    rw [value_step_receive]

lemma tally_le_run (timeout : Duration) (x : Inbox) (history : List Op) :
    x.tally ≤ (run timeout x history).value.2.tally := by
  induction history generalizing x with
  | nil => exact le_refl _
  | cons op history ih =>
    rw [value_run_cons]
    exact le_trans (tally_le_step timeout x op) (ih (x.step timeout op).value.2)

lemma value_run_append (timeout : Duration) (x : Inbox) (history later : List Op) :
    (run timeout x (history ++ later)).value.2 =
      (run timeout (run timeout x history).value.2 later).value.2 := by
  induction history generalizing x with
  | nil => rfl
  | cons op history ih =>
    rw [List.cons_append, value_run_cons, value_run_cons]
    exact ih (x.step timeout op).value.2

/-- After any history, the packets that were routed are those counted as measurements, answers,
error reports and empty ones, each by its class. Every answer was returned to a command, displaced,
dropped before a command, or lies in the mailbox, which holds one at most. The same is true while
the frame of a further command is written, whatever has arrived by then. No count ever decreases,
and none is above the number of the packets. -/
theorem counts_over_history (timeout : Duration) (history : List Op) :
    let done := (run timeout {} history).value
    let routed := history.flatMap Op.routed
    let returned := done.1.filterMap Reply.answer?
    let x := done.2
    routed.length = x.tally.measurements + x.tally.answers + x.tally.errorReports +
      x.tally.emptyDropped ∧
    x.tally.answers = returned.length + x.tally.staleOverwritten + x.tally.staleDrained +
      (if x.mailbox.isSome then 1 else 0) ∧
    (∀ kind, x.tally.arrived kind = routed.countP (·.kind? = kind)) ∧
    (∀ during, let y := (x.discardStale.value.routeAll during).value
      Accounted (routed ++ during) returned y ∧ x.tally ≤ y.tally) ∧
    (∀ later, x.tally ≤ (run timeout {} (history ++ later)).value.2.tally) ∧
    x.tally ≤ .uniform routed.length := by
  intro done routed returned x
  have h : Accounted routed returned x := Accounted.new.run timeout history
  refine ⟨?_, h.answers, h.arrived, ?_, ?_, h.tally_le⟩
  · rw [length_eq_countP_kinds, ← h.arrived, ← h.arrived, ← h.arrived, ← h.arrived]
    rfl
  · intro during y
    exact ⟨h.discardStale.routeAll during,
      le_trans (tally_le_discardStale x) (tally_le_routeAll _ during)⟩
  · intro later
    rw [value_run_append]
    exact tally_le_run timeout x later

end ControlNode.Inbox
