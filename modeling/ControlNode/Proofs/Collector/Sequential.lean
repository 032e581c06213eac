import ControlNode.Proofs.Collector.History
import ControlNode.Proofs.Collector.Progress

/-!
# Histories of a collector as runs

The threads of a collector can do whatever a history of a collector does, if no thread interrupts
another (`Threads.exists_trace_of_history`). So what holds after every run of theirs holds after
every history: every packet is decoded once and in its turn, however often the worker is stopped and
started again (`Collector.decodes_each_once`).
-/

namespace ControlNode.Collector

variable {σ : Type}

namespace Threads

/-- The threads are where a collector is between its operations. -/
structure Shows (c : Collector σ) (s : State σ) : Prop where
  session : s.session = c.session
  queue : s.queue = c.queue
  closed : s.closed = c.closed
  control : s.control = .idle
  absent : c.worker = .absent → s.handle = none
  active : c.worker = .active → ∃ k, s.handle = some k ∧ s.stage k = .looking
  finished : c.worker = .finished → ∃ k, s.handle = some k ∧ s.stage k = .gone

/-- Between its steps, the worker of an active collector is about to look at the flag. -/
lemma Shows.of_active {c : Collector σ} {s : State σ} {k : Nat} (hworker : c.worker = .active)
    (session : s.session = c.session) (queue : s.queue = c.queue) (closed : s.closed = c.closed)
    (control : s.control = .idle) (hk : s.handle = some k) (hstage : s.stage k = .looking) :
    Shows c s := by
  refine ⟨session, queue, closed, control, ?_, fun _ => ⟨k, hk, hstage⟩, ?_⟩ <;>
    rw [hworker] <;> nofun

/-- The events bring about what the operations do, and tell the same. -/
structure Alike (c : Collector σ) (ops : List (Op σ)) (τ : List Event) : Prop where
  pushed : pushed τ = c.along taken? ops
  decoded : decoded τ = c.along decoded? ops
  given : c.records ++ given τ = (c.run ops).records
  started : τ.filterMap Event.started? = c.along started? ops
  stopped : τ.filterMap Event.stopped? = c.along stopped? ops
  unused : (∀ op ∈ ops, op.isUse = false) → ∀ e ∈ τ, e.isUse = false

lemma Alike.nil (c : Collector σ) : Alike c [] [] :=
  ⟨rfl, rfl, List.append_nil _, rfl, rfl, nofun⟩

lemma Alike.cons {c : Collector σ} {op : Op σ} {ops : List (Op σ)} {τ τ' : List Event}
    (first : Alike c [op] τ) (later : Alike (c.step op) ops τ') :
    Alike c (op :: ops) (τ ++ τ') := by
  have halong {α : Type} (yield? : Collector σ → Op σ → Option α) :
      c.along yield? (op :: ops) = c.along yield? [op] ++ (c.step op).along yield? ops := by
    rw [along, along, along, List.append_nil]
  have hgiven := first.given
  rw [run_cons] at hgiven
  refine ⟨?_, ?_, ?_, ?_, ?_, ?_⟩
  · rw [halong, ← first.pushed, ← later.pushed]
    exact List.filterMap_append
  · rw [halong, ← first.decoded, ← later.decoded]
    exact List.filterMap_append
  · rw [run_cons, ← later.given, ← show _ = (c.step op).records from hgiven, List.append_assoc]
    exact congrArg _ List.filterMap_append
  · rw [halong, ← first.started, ← later.started, List.filterMap_append]
  · rw [halong, ← first.stopped, ← later.stopped, List.filterMap_append]
  · intro hunused e he
    rcases List.mem_append.1 he with he | he
    · refine first.unused (fun op' h => ?_) e he
      rw [List.mem_singleton.1 h]
      exact hunused op List.mem_cons_self
    · exact later.unused (fun op' h => hunused op' (List.mem_cons_of_mem _ h)) e he

variable {c : Collector σ} {s : State σ}

/-- A collector that counts as running has a worker that can be stopped. -/
lemma Shows.handle (h : Shows c s) (hrunning : c.isRunning = true) :
    ∃ k, s.handle = some k ∧
      (c.worker = .active ∧ s.stage k = .looking ∨ c.worker = .finished ∧ s.stage k = .gone) := by
  cases hworker : c.worker with
  | absent =>
    rw [isRunning, hworker] at hrunning
    cases hrunning
  | active =>
    obtain ⟨k, hk, hstage⟩ := h.active hworker
    exact ⟨k, hk, .inl ⟨rfl, hstage⟩⟩
  | finished =>
    obtain ⟨k, hk, hstage⟩ := h.finished hworker
    exact ⟨k, hk, .inr ⟨rfl, hstage⟩⟩

lemma exists_trace_start (h : Shows c s) :
    ∃ τ s', Trace Step s τ s' ∧ Shows c.start.2 s' ∧ Alike c [.start] τ := by
  cases hrunning : c.isRunning with
  | false =>
    have hnone := h.absent (worker_of_not_running hrunning)
    have hstart : c.start = (.ok (), { c with worker := .active }) := if_neg (by simp [hrunning])
    refine ⟨_, _, .cons (.begin h.control hnone) (.single (.spawn rfl)), ?_, ?_⟩
    · rw [hstart]
      refine ⟨h.session, h.queue, h.closed, rfl, nofun, fun _ => ⟨s.born, rfl, ?_⟩, nofun⟩
      exact Function.update_self ..
    · refine ⟨rfl, rfl, ?_, ?_, rfl, by simp [Event.isUse]⟩
      · rw [run_cons, step, hstart]
        exact List.append_nil _
      · rw [along, started?, hstart]
        rfl
  | true =>
    obtain ⟨k, hk, -⟩ := h.handle hrunning
    have hstart : c.start = (.error .alreadyRunning, c) := if_pos hrunning
    refine ⟨_, _, .single (.refuse h.control (by rw [hk]; rfl)), ?_, ?_⟩
    · rw [hstart]
      exact h
    · refine ⟨rfl, rfl, ?_, ?_, rfl, by simp [Event.isUse]⟩
      · rw [run_cons, step, hstart]
        exact List.append_nil _
      · rw [along, started?, hstart]
        rfl

lemma exists_trace_stop (h : Shows c s) :
    ∃ τ s', Trace Step s τ s' ∧ Shows c.stop.2 s' ∧ Alike c [.stop] τ := by
  cases hrunning : c.isRunning with
  | false =>
    have hworker := worker_of_not_running hrunning
    refine ⟨_, _, .single (.pass h.control (h.absent hworker)), ?_, ?_⟩
    · exact ⟨h.session, h.queue, h.closed, h.control, fun _ => h.absent hworker, nofun, nofun⟩
    · refine ⟨rfl, rfl, List.append_nil _, rfl, ?_, by simp [Event.isUse]⟩
      rw [along, stopped?, stop, hrunning]
      rfl
  | true =>
    obtain ⟨k, hk, hstage⟩ := h.handle hrunning
    have hstopped : c.along stopped? [.stop] = [true] := congrArg (fun b => [b]) hrunning
    rcases hstage with ⟨-, hstage⟩ | ⟨-, hstage⟩
    · -- The worker ends when it looks at the flag.
      refine ⟨[.halt k, .clear k, .look k, .join k], _,
        .cons (.halt h.control hk) (.cons (.clear rfl) (.cons (.look hstage)
          (.single (.join rfl (Function.update_self ..))))), ?_, ?_⟩
      · exact ⟨h.session, h.queue, h.closed, rfl, fun _ => rfl, nofun, nofun⟩
      · exact ⟨rfl, rfl, List.append_nil _, rfl, by rw [hstopped]; rfl, by simp [Event.isUse]⟩
    · refine ⟨[.halt k, .clear k, .join k], _,
        .cons (.halt h.control hk) (.cons (.clear rfl) (.single (.join rfl hstage))), ?_, ?_⟩
      · exact ⟨h.session, h.queue, h.closed, rfl, fun _ => rfl, nofun, nofun⟩
      · exact ⟨rfl, rfl, List.append_nil _, rfl, by rw [hstopped]; rfl, by simp [Event.isUse]⟩

/-! ### The steps of the worker -/

lemma yield_of_isWork {e : Event} (he : e.isWork = true) :
    e.pushed? = none ∧ e.started? = none ∧ e.stopped? = none ∧ e.isUse = false := by
  cases e with
  | look | take | silence | finish | decode | give => exact ⟨rfl, rfl, rfl, rfl⟩
  | _ => cases he

/-- What the worker's steps bring about is that packets are decoded and records handed over. -/
lemma alike_work {τ : List Event} (hwork : ∀ e ∈ τ, e.isWork = true)
    (hdecoded : decoded τ = (c.decoded? .work).toList)
    (hgiven : c.records ++ given τ = c.work.records) : Alike c [.work] τ where
  pushed := List.filterMap_eq_nil_iff.2 fun e he => (yield_of_isWork (hwork e he)).1
  decoded := hdecoded.trans (List.append_nil _).symm
  given := hgiven
  started := List.filterMap_eq_nil_iff.2 fun e he => (yield_of_isWork (hwork e he)).2.1
  stopped := List.filterMap_eq_nil_iff.2 fun e he => (yield_of_isWork (hwork e he)).2.2.1
  unused _ e he := (yield_of_isWork (hwork e he)).2.2.2

/-- The worker takes the first packet that waits, and hands its record over. -/
lemma exists_trace_take {k : Nat} {p : Packet} {queue : List Packet} (hk : s.stage k = .waiting)
    (hqueue : s.queue = p :: queue) :
    ∃ τ s', Trace Step s τ s' ∧ (∀ e ∈ τ, e.isWork = true) ∧ decoded τ = [p] ∧
      given τ = (s.session.decode p).value.1.toList ∧ s'.stage k = .looking ∧
      s' = { s with
        session := (s.session.decode p).value.2
        queue
        stage := s'.stage } := by
  have take := Step.take hk hqueue
  have decode := Step.decode (s := { s.move k (.holding p) with queue }) (Function.update_self ..)
  cases hrecord : (s.session.decode p).value.1 with
  | none =>
    refine ⟨_, _, .cons take (.single decode), by simp [Event.isWork], rfl, rfl, ?_, rfl⟩
    simp [State.move, hrecord, Stage.after]
  | some r =>
    have give := Step.give (r := r) (k := k)
      (s := { (s.move k (.holding p)).move k (.after (s.session.decode p).value.1) with
        queue, session := (s.session.decode p).value.2 })
      (by simp [State.move, hrecord, Stage.after])
    refine ⟨_, _, .cons take (.cons decode (.single give)), by simp [Event.isWork], rfl, rfl, ?_,
      rfl⟩
    exact Function.update_self ..

lemma exists_trace_work (h : Shows c s) (hinv : Inv s) :
    ∃ τ s', Trace Step s τ s' ∧ Shows c.work s' ∧ Alike c [.work] τ := by
  by_cases hworker : c.worker = .active
  · obtain ⟨k, hk, hstage⟩ := h.active hworker
    have hup : s.up = true := (hinv.handled (by rw [hk]; rfl)).2
    have look : Step s (.look k) (s.move k .waiting) := by
      have hlook := Step.look hstage
      rwa [hup] at hlook
    have hwaiting : (s.move k .waiting).stage k = .waiting := Function.update_self ..
    have hdecoded : c.decoded? .work = c.queue.head? := if_pos hworker
    cases hqueue : c.queue with
    | nil =>
      have hempty : (s.move k .waiting).queue = [] := h.queue.trans hqueue
      rw [hqueue] at hdecoded
      cases hclosed : c.closed with
      | false =>
        have hwork : c.work = c := by
          rw [work_of_nil hworker hqueue, if_neg (by simp [hclosed])]
        have silence := Step.silence hwaiting hempty (h.closed.trans hclosed)
        refine ⟨_, _, .cons look (.single silence), ?_,
          alike_work (by simp [Event.isWork]) (by rw [hdecoded]; rfl) ?_⟩
        · rw [hwork]
          exact .of_active hworker h.session h.queue h.closed h.control hk (Function.update_self ..)
        · rw [hwork]
          exact List.append_nil _
      | true =>
        have hwork : c.work = { c with worker := .finished } := by
          rw [work_of_nil hworker hqueue, if_pos hclosed]
        have finish := Step.finish hwaiting hempty (h.closed.trans hclosed)
        refine ⟨_, _, .cons look (.single finish), ?_,
          alike_work (by simp [Event.isWork]) (by rw [hdecoded]; rfl) ?_⟩
        · rw [hwork]
          refine ⟨h.session, h.queue, h.closed, h.control, nofun, nofun, fun _ => ⟨k, hk, ?_⟩⟩
          exact Function.update_self ..
        · rw [hwork]
          exact List.append_nil _
    | cons p queue =>
      obtain ⟨τ, s', trace, hworks, htaken, hgiven, hlooking, heq⟩ :=
        exists_trace_take hwaiting (h.queue.trans hqueue)
      have hsession : (s.move k .waiting).session = c.session := h.session
      have hwork := work_of_cons hworker hqueue
      rw [← hsession] at hwork
      rw [hqueue] at hdecoded
      refine ⟨_, s', .cons look trace, ?_,
        alike_work (List.forall_mem_cons.2 ⟨rfl, hworks⟩) ?_ ?_⟩
      · rw [hwork, heq]
        exact .of_active hworker rfl rfl h.closed h.control hk hlooking
      · rw [hdecoded]
        exact htaken
      · rw [hwork, ← hgiven]
        rfl
  · have hwork := work_of_not_active hworker
    refine ⟨[], s, .nil s, ?_, alike_work nofun ?_ ?_⟩
    · rw [hwork]
      exact h
    · rw [decoded?, if_neg hworker]
      rfl
    · rw [hwork]
      exact List.append_nil _

/-! ### Any history -/

lemma exists_trace_push (h : Shows c s) (p : Packet) :
    ∃ τ s', Trace Step s τ s' ∧ Shows (c.push p).2 s' ∧ Alike c [.push p] τ := by
  cases hclosed : c.closed with
  | false =>
    have hpush : c.push p = (true, { c with queue := c.queue ++ [p] }) :=
      if_neg (by simp [hclosed])
    refine ⟨_, _, .single (.push p (h.closed.trans hclosed)), ?_, ?_⟩
    · rw [hpush, ← h.queue]
      exact ⟨h.session, rfl, h.closed, h.control, h.absent, h.active, h.finished⟩
    · refine ⟨?_, rfl, ?_, rfl, rfl, by simp [Event.isUse]⟩
      · rw [along, taken?, hpush]
        rfl
      · rw [run_cons, step, hpush]
        exact List.append_nil _
  | true =>
    have hpush : c.push p = (false, c) := if_pos hclosed
    refine ⟨[], s, .nil s, ?_, ?_, rfl, ?_, rfl, rfl, by simp⟩
    · rw [hpush]
      exact h
    · rw [along, taken?, hpush]
      rfl
    · rw [run_cons, step, hpush]
      exact List.append_nil _

lemma exists_trace_of_step (h : Shows c s) (hinv : Inv s) (op : Op σ) :
    ∃ τ s', Trace Step s τ s' ∧ Shows (c.step op) s' ∧ Alike c [op] τ := by
  cases op with
  | start => exact exists_trace_start h
  | stop => exact exists_trace_stop h
  | push p => exact exists_trace_push h p
  | work => exact exists_trace_work h hinv
  | close =>
    refine ⟨_, _, .single .close, ?_, rfl, rfl, List.append_nil _, rfl, rfl, by simp [Event.isUse]⟩
    exact ⟨h.session, h.queue, rfl, h.control, h.absent, h.active, h.finished⟩
  | use f =>
    refine ⟨_, _, .single (.use (f c.session)), ?_, rfl, rfl, List.append_nil _, rfl, rfl,
      by simp [Op.isUse]⟩
    exact ⟨rfl, h.queue, h.closed, h.control, h.absent, h.active, h.finished⟩
  | setClock clock =>
    refine ⟨_, _, .single (.tick clock), ?_, rfl, rfl, List.append_nil _, rfl, rfl,
      by simp [Event.isUse]⟩
    refine ⟨?_, h.queue, h.closed, h.control, h.absent, h.active, h.finished⟩
    show { s.session with clock } = { c.session with clock }
    rw [h.session]

/-- The threads can do whatever a history of a collector does. -/
lemma exists_trace_of_history (h : Shows c s) (hinv : Inv s) (ops : List (Op σ)) :
    ∃ τ s', Trace Step s τ s' ∧ Shows (c.run ops) s' ∧ Alike c ops τ := by
  induction ops generalizing c s with
  | nil => exact ⟨[], s, .nil s, h, .nil c⟩
  | cons op ops ih =>
    obtain ⟨τ, s₁, trace, shows₁, hfirst⟩ := exists_trace_of_step h hinv op
    have hinv₁ : Inv s₁ :=
      trace.induction (P := fun _ => Inv) (τ := []) (fun h step => inv_step h step) hinv
    obtain ⟨τ', s', trace', shows', hlater⟩ := ih shows₁ hinv₁
    exact ⟨τ ++ τ', s', trace.trans trace', shows', hfirst.cons hlater⟩

lemma shows_new (session : Session σ) : Shows { session } { session } :=
  ⟨rfl, rfl, rfl, rfl, fun _ => rfl, nofun, nofun⟩

/-- Between its operations, the worker of a collector has nothing in hand. -/
lemma Shows.hand (h : Shows c s) : s.hand.packet? = none ∧ s.hand.record? = none := by
  have hcurrent : s.current? = s.handle := current?_eq_handle (.inl h.control)
  rw [State.hand, hcurrent]
  cases hrunning : c.isRunning with
  | false =>
    rw [h.absent (worker_of_not_running hrunning)]
    exact ⟨rfl, rfl⟩
  | true =>
    obtain ⟨k, hk, hstage⟩ := h.handle hrunning
    rw [hk]
    show (s.stage k).packet? = none ∧ (s.stage k).record? = none
    rcases hstage with ⟨-, hstage⟩ | ⟨-, hstage⟩ <;>
    · rw [hstage]
      exact ⟨rfl, rfl⟩

end Threads

/-! ### What a history leaves -/

/-- What can be said after a history of a new collector. -/
structure Outcome (session : Session σ) (ops : List (Op σ)) (c : Collector σ) : Prop where
  /-- The packets that the queue took were decoded but for those that wait, each once and in its
  turn. -/
  kept : along decoded? { session } ops ++ c.queue = along taken? { session } ops
  /-- The queue takes all that is pushed until it is closed. -/
  taken : along taken? { session } ops =
    (ops.takeWhile fun op => !op.isClose).filterMap Op.pushed?
  /-- From now on, as long as nobody else uses the session, the records and what the session knows
  are those of one decoding of the packets. -/
  records : ∀ later : List (Op σ), (∀ op ∈ later, op.isUse = false) → ∀ clock,
    let all := (c.session.decoding.decodeAll clock (c.along decoded? later)).value
    (c.run later).records = c.records ++ all.1.reduceOption ∧
    (c.run later).session.decoding = all.2
  /-- A start is turned down if and only if a worker was started and not stopped since. -/
  refused : c.start.1 = .error .alreadyRunning ↔ Since Op.isStart Op.isStop ops
  unchanged : c.start.1 = .error .alreadyRunning → c.start.2 = c
  /-- When the queue is closed, a worker that is left running takes all that waits, and ends. -/
  settled : c.closed = true → c.worker = .active →
    c.settle = c.run (List.replicate (c.queue.length + 1) .work) ∧
    c.settle.queue = [] ∧ c.settle.worker = .finished

lemma outcome_run (session : Session σ) (ops : List (Op σ)) :
    Outcome session ops (run { session } ops) := by
  obtain ⟨τ, s, run, shows, halike⟩ :=
    Threads.exists_trace_of_history (Threads.shows_new session) Threads.inv_new ops
  have hinv := Threads.inv_of_run run
  obtain ⟨hpacket, hrecord⟩ := shows.hand
  refine ⟨?_, along_taken_of_open rfl ops, fun later hunused clock => ?_, ?_, fun h => ?_,
    fun hclosed hworker => ?_⟩
  · have hkept := Threads.kept_of_run run
    rwa [hpacket, shows.queue, halike.decoded, halike.pushed, Option.toList_none,
      List.append_nil] at hkept
  · obtain ⟨τ', s', trace, shows', halike'⟩ := Threads.exists_trace_of_history shows hinv later
    obtain ⟨-, hrecord'⟩ := shows'.hand
    obtain ⟨hrecords, hdecoding⟩ :=
      (Threads.accounts_of_trace hinv trace).records (halike'.unused hunused) clock
    rw [hrecord, hrecord', shows.session, halike'.decoded, Option.toList_none,
      List.append_nil, List.nil_append] at hrecords
    rw [shows.session, shows'.session, halike'.decoded] at hdecoding
    refine ⟨?_, hdecoding⟩
    rw [← halike'.given, hrecords]
  · exact (start_eq_error_iff _).trans (isRunning_run session ops)
  · rw [start, if_pos ((start_eq_error_iff _).1 h)]
  · exact ⟨workFor_eq_run _ _, queue_settle _ hclosed hworker⟩

/-- However often the worker of a collector is stopped and started again, every packet is decoded
once and in its turn. The packets that were decoded, the one in hand, if any, and those that wait
are together the packets that were pushed; as long as nobody else uses the session, the records are
those of one decoding of the packets, in their order. There is at most one worker. A start is turned
down if and only if a worker was started and not stopped, even if it has come to its end, and then
nothing is changed. Once the queue is closed, a worker that is not stopped decodes all packets that
are left. So it is at every moment of the threads of a collector, and after every history. -/
theorem decodes_each_once (session : Session σ) :
    (∀ (τ : List Threads.Event) (s : Threads.State σ), Threads.Run session τ s →
      Threads.decoded τ ++ s.hand.packet?.toList ++ s.queue = Threads.pushed τ ∧
      (s.current? = none → Threads.decoded τ ++ s.queue = Threads.pushed τ) ∧
      (∀ j k, s.stage j ≠ .gone → s.stage k ≠ .gone → j = k) ∧
      (s.control = .idle → Threads.Starts τ s) ∧
      ∀ τ' s', Trace Threads.Step s τ' s' →
        Threads.Accounts s τ' s' ∧
        (s.closed = true → s.handle.isSome = true → (∀ e ∈ τ', e.isHalt = false) →
          Threads.Finishes τ s τ' s')) ∧
    (∀ ops : List (Op σ), Outcome session ops (run { session } ops)) := by
  refine ⟨fun τ s run => ?_, outcome_run session⟩
  have hinv := Threads.inv_of_run run
  refine ⟨Threads.kept_of_run run, Threads.kept_of_stopped run, fun j k hj hk => ?_,
    Threads.starts_of_run run, fun τ' s' trace => ?_⟩
  · exact Option.some.inj ((hinv.only j hj).symm.trans (hinv.only k hk))
  · refine ⟨Threads.accounts_of_trace hinv trace, fun hclosed hsome hleft => ?_⟩
    obtain ⟨k, hk⟩ := Option.isSome_iff_exists.1 hsome
    exact Threads.finishes_of_trace run hclosed hk trace hleft

end ControlNode.Collector
