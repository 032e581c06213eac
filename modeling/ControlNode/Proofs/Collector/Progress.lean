import ControlNode.Proofs.Collector.Delivery

/-!
# Starts, and the end of the queue

A start is turned down as long as a worker was started and not stopped, whether or not it is still
there (`starts_of_run`). When the queue is closed, a worker that is not stopped comes to its end by
its own steps, and then it has decoded all packets that were pushed (`finishes_of_trace`).
-/

namespace ControlNode.Collector.Threads

variable {σ : Type} {session : Session σ} {τ τ' : List Event} {s s' : State σ} {e : Event} {k : Nat}

/-! ### Starts -/

/-- A worker was started, and not stopped since. -/
abbrev Started (τ : List Event) : Prop := Since Event.isSpawn Event.isHalt τ

lemma handle_step (step : Step s e s') :
    s'.handle.isSome = true ↔ e.isSpawn = true ∨ e.isHalt = false ∧ s.handle.isSome = true := by
  cases step with
  | spawn => simp [Event.isSpawn]
  | halt => simp [Event.isSpawn, Event.isHalt]
  | _ => simp [Event.isSpawn, Event.isHalt, State.move]

lemma started_iff (run : Run session τ s) : s.handle.isSome = true ↔ Started τ := by
  refine run.induction (P := fun τ s => s.handle.isSome = true ↔ Started τ) (τ := []) ?_ ?_
  · intro τ s e s' h step
    rw [handle_step step, h]
    exact (since_concat τ e).symm
  · simp [Started, not_since_nil]

/-- Whether a start is turned down at a step. -/
def Event.isRefusal (e : Event) : Prop := e.started? = some (.error .alreadyRunning)

lemma refuse_of_isRefusal (step : Step s e s') (he : e.isRefusal) :
    s.handle.isSome = true ∧ s' = s := by
  cases step with
  | refuse _ hsome => exact ⟨hsome, rfl⟩
  | _ => simp [Event.isRefusal, Event.started?] at he

/-- What becomes of a start when nobody starts or stops a worker. -/
structure Starts (τ : List Event) (s : State σ) : Prop where
  refused : (∃ e s', Step s e s' ∧ e.isRefusal) ↔ Started τ
  unchanged : ∀ e s', Step s e s' → e.isRefusal → s' = s
  begun : (∃ s', Step s .begin s') ↔ ¬ Started τ

lemma starts_of_run (run : Run session τ s) (hidle : s.control = .idle) : Starts τ s where
  refused := by
    rw [← started_iff run]
    constructor
    · rintro ⟨e, s', step, he⟩
      exact (refuse_of_isRefusal step he).1
    · intro hsome
      exact ⟨_, s, .refuse hidle hsome, rfl⟩
  unchanged _ _ step he := (refuse_of_isRefusal step he).2
  begun := by
    rw [← started_iff run, Bool.not_eq_true, Option.isSome_eq_false_iff, Option.isNone_iff_eq_none]
    constructor
    · rintro ⟨_, ⟨⟩⟩
      assumption
    · intro hnone
      exact ⟨_, .begin hidle hnone⟩

/-! ### The end of the queue -/

/-- A bound of the steps that a worker still takes when no more than the given number of packets are
to come. -/
def Stage.effort (count : Nat) : Stage → Nat
  | gone => 0
  | waiting => 4 * count + 1
  | looking => 4 * count + 2
  | handing _ => 4 * count + 3
  | holding _ => 4 * count + 4

def State.effort (s : State σ) : Nat := s.hand.effort s.queue.length

/-- The queue is closed, and worker `k` is not stopped. -/
structure Closed (s : State σ) (k : Nat) : Prop where
  inv : Inv s
  closed : s.closed = true
  handle : s.handle = some k

namespace Closed

lemma up (h : Closed s k) : s.up = true := (h.inv.handled (by rw [h.handle]; rfl)).2

lemma hand (h : Closed s k) : s.hand = s.stage k :=
  hand_of_current? (current?_of_handle h.inv h.handle)

lemma not_starting (h : Closed s k) : s.control ≠ .starting := by
  rw [(h.inv.handled (by rw [h.handle]; rfl)).1]
  nofun

lemma step (h : Closed s k) (next : Step s e s') (he : e.isHalt = false) : Closed s' k := by
  have hinv := inv_step h.inv next
  cases next with
  | close => exact ⟨hinv, rfl, h.handle⟩
  | spawn hc => exact (h.not_starting hc).elim
  | halt => cases he
  | _ => exact ⟨hinv, h.closed, h.handle⟩

/-- The worker's steps bring it closer to its end, and no others put it off. -/
lemma effort_step (h : Closed s k) (next : Step s e s') (he : e.isHalt = false) :
    [e].countP Event.isWork + s'.effort ≤ s.effort := by
  have hmove {j : Nat} {stage : Stage} (hj : s.stage j = stage) (hne : stage ≠ .gone)
      (stage' : Stage) := hand_move h.inv hj hne stage'
  cases hwork : e.isWork with
  | false =>
    have hhand : s'.hand = s.hand := by
      obtain heq | ⟨hspawn, -, -⟩ := hand_step h.inv next hwork
      · exact heq
      · cases next with
        | spawn hc => exact (h.not_starting hc).elim
        | _ => cases hspawn
    have hqueue : s'.queue = s.queue := by
      cases next with
      | push p hopen =>
        rw [h.closed] at hopen
        cases hopen
      | look | take | silence | finish | decode | give => cases hwork
      | _ => rfl
    rw [State.effort, State.effort, hhand, hqueue, List.countP_cons_of_neg (by simp [hwork])]
    exact Nat.le_of_eq (Nat.zero_add _)
  | true =>
    cases next with
    | look hk =>
      obtain ⟨hhand, hhand'⟩ := hmove hk (by simp) (if s.up then .waiting else .gone)
      rw [h.up] at hhand' ⊢
      rw [State.effort, State.effort, hhand, hhand']
      exact Nat.le_of_eq (Nat.add_comm _ _)
    | @take j p queue hk hq =>
      obtain ⟨hhand, hhand'⟩ := hmove hk (by simp) (.holding p)
      show 1 + (s.move j (.holding p)).hand.effort queue.length ≤ s.hand.effort s.queue.length
      rw [hhand, hhand', hq, List.length_cons]
      simp only [Stage.effort]
      omega
    | silence hk hq hopen =>
      rw [h.closed] at hopen
      cases hopen
    | finish hk =>
      obtain ⟨hhand, hhand'⟩ := hmove hk (by simp) .gone
      rw [State.effort, State.effort, hhand, hhand']
      exact Nat.le_add_left _ _
    | @decode j p hk =>
      obtain ⟨hhand, hhand'⟩ := hmove hk (by simp) (.after (s.session.decode p).value.1)
      show 1 + (s.move j (.after _)).hand.effort s.queue.length ≤ s.hand.effort s.queue.length
      rw [hhand, hhand']
      cases (s.session.decode p).value.1 <;> simp only [Stage.after, Stage.effort] <;> omega
    | give hk =>
      obtain ⟨hhand, hhand'⟩ := hmove hk (by simp) .looking
      rw [State.effort, State.effort, hhand, hhand']
      exact Nat.le_of_eq (Nat.add_comm _ _)
    | _ => cases hwork

/-- The worker can go on by itself until it has ended. -/
lemma exists_work (h : Closed s k) (heffort : s.effort ≠ 0) :
    ∃ e s', e.isWork = true ∧ Step s e s' := by
  rw [State.effort, h.hand] at heffort
  match hk : s.stage k with
  | .gone =>
    rw [hk] at heffort
    exact absurd rfl heffort
  | .looking => exact ⟨_, _, rfl, .look hk⟩
  | .waiting =>
    match hq : s.queue with
    | [] => exact ⟨_, _, rfl, .finish hk hq h.closed⟩
    | p :: queue => exact ⟨_, _, rfl, .take hk hq⟩
  | .holding p => exact ⟨_, _, rfl, .decode hk⟩
  | .handing r => exact ⟨_, _, rfl, .give hk⟩

/-- When it has ended, nothing is in hand and nothing waits. -/
lemma ended (h : Closed s k) (heffort : s.effort = 0) : s.hand = .gone ∧ s.queue = [] := by
  have hgone : s.hand = .gone := by
    rw [State.effort] at heffort
    cases hhand : s.hand with
    | gone => rfl
    | _ =>
      rw [hhand] at heffort
      cases heffort
  refine ⟨hgone, (h.inv.ended k h.handle ?_).2⟩
  rw [← h.hand, hgone]

end Closed

/-- What can be said when a worker was left running, after the queue was closed, while the events
`τ'` led from `s` to `s'`. -/
structure Finishes (τ : List Event) (s : State σ) (τ' : List Event) (s' : State σ) : Prop where
  /-- The worker takes only so many steps, -/
  bound : τ'.countP Event.isWork + s'.effort ≤ s.effort
  /-- it can always take the next one by itself, -/
  goesOn : s'.effort ≠ 0 → ∃ e s'', e.isWork = true ∧ Step s' e s''
  /-- and when there is none, it has decoded all that was pushed. -/
  done : s'.effort = 0 → decoded (τ ++ τ') = pushed τ

lemma pushed_step (h : Closed s k) (next : Step s e s') : e.pushed? = none := by
  cases next with
  | push p hopen =>
    rw [h.closed] at hopen
    cases hopen
  | _ => rfl

/-- No packet is pushed any more, and the worker comes closer to its end. -/
lemma closed_of_trace (h : Closed s k) (trace : Trace Step s τ' s')
    (hleft : ∀ e ∈ τ', e.isHalt = false) :
    Closed s' k ∧ pushed τ' = [] ∧ τ'.countP Event.isWork + s'.effort ≤ s.effort := by
  refine trace.induction (P := fun (τ' : List Event) s' => (∀ e ∈ τ', e.isHalt = false) →
    Closed s' k ∧ pushed τ' = [] ∧ τ'.countP Event.isWork + s'.effort ≤ s.effort) (τ := []) ?_ ?_
    hleft
  · intro τ₁ s₁ e s₂ ih next hleft
    have he : e.isHalt = false := hleft e (List.mem_append_right _ List.mem_cons_self)
    obtain ⟨hclosed, hpushed, hbound⟩ := ih fun e' he' => hleft e' (List.mem_append_left _ he')
    refine ⟨hclosed.step next he, ?_, ?_⟩
    · rw [pushed_concat, hpushed, pushed_step hclosed next]
      rfl
    · have hstep := hclosed.effort_step next he
      rw [List.countP_append]
      omega
  · intro _
    exact ⟨h, rfl, Nat.le_of_eq (Nat.zero_add _)⟩

theorem finishes_of_trace (run : Run session τ s) (hclosed : s.closed = true)
    (hhandle : s.handle = some k) (trace : Trace Step s τ' s')
    (hleft : ∀ e ∈ τ', e.isHalt = false) : Finishes τ s τ' s' := by
  obtain ⟨h, hpushed, hbound⟩ :=
    closed_of_trace ⟨inv_of_run run, hclosed, hhandle⟩ trace hleft
  refine ⟨hbound, h.exists_work, fun heffort => ?_⟩
  obtain ⟨hgone, hqueue⟩ := h.ended heffort
  have hkept := kept_of_run (run.trans trace)
  rw [hgone, hqueue, pushed, List.filterMap_append, ← pushed, ← pushed, hpushed] at hkept
  simpa [Stage.packet?] using hkept

end ControlNode.Collector.Threads
