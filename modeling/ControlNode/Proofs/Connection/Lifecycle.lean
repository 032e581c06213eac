import ControlNode.Proofs.Connection.History
import ControlNode.Proofs.Connection.Threads
import ControlNode.Proofs.Inbox.Queue

/-!
# The end of a connection

What brings a connection down, and what can happen to it afterwards. Each field of `Threads.Ended`
is a promise about everything that the threads do from a moment on at which the connection is not
up; each is kept by every step, and so by all that follow (`Threads.ended_of_trace`).
-/

namespace ControlNode

/-! ### What the queue does not touch -/

namespace Inbox

/-- Two inboxes that may differ in what waits in their queues. -/
structure SameButQueue (x y : Inbox) : Prop where
  mailbox : x.mailbox = y.mailbox
  tally : x.tally = y.tally

namespace SameButQueue

variable {x y z : Inbox}

lemma refl (x : Inbox) : SameButQueue x x := ⟨rfl, rfl⟩

lemma trans (h : SameButQueue x y) (h' : SameButQueue y z) : SameButQueue x z :=
  ⟨h.mailbox.trans h'.mailbox, h.tally.trans h'.tally⟩

lemma route (h : SameButQueue x y) (p : Packet) :
    SameButQueue (x.route p).value (y.route p).value := by
  match hp : p.kind? with
  | none =>
    rw [value_route_of_none hp, value_route_of_none hp, h.tally]
    exact ⟨h.mailbox, rfl⟩
  | some .measurement =>
    rw [value_route_of_measurement hp, value_route_of_measurement hp, h.tally]
    exact ⟨h.mailbox, rfl⟩
  | some .errorReport =>
    rw [value_route_of_errorReport hp, value_route_of_errorReport hp, h.tally]
    exact ⟨h.mailbox, rfl⟩
  | some .answer =>
    rw [value_route_of_answer hp, value_route_of_answer hp, h.tally, h.mailbox]
    exact ⟨rfl, rfl⟩

lemma routeAll (h : SameButQueue x y) (ps : List Packet) :
    SameButQueue (x.routeAll ps).value (y.routeAll ps).value := by
  induction ps generalizing x y with
  | nil => exact h
  | cons p ps ih =>
    rw [value_routeAll_cons, value_routeAll_cons]
    exact ih (h.route p)

lemma receive (x : Inbox) : SameButQueue x.receive.2 x := by
  obtain ⟨mailbox, queue, tally⟩ := x
  cases queue <;> exact ⟨rfl, rfl⟩

end SameButQueue

lemma measurements_singleton (p : Packet) :
    measurements [p] = if p.kind? = some .measurement then [p] else [] := by
  simp only [Packet.kind?_eq_measurement_iff]
  by_cases hp : p.IsMeasurement <;> simp [measurements, hp]

lemma queue_discardStale (x : Inbox) : x.discardStale.value.queue = x.queue := by
  rw [value_discardStale]

lemma queue_claim (x : Inbox) (command : Packet) (timeout : Duration) :
    (x.claim command timeout).value.2.queue = x.queue := by
  rw [value_claim]

lemma receive_append (x : Inbox) : x.receive.1.toList ++ x.receive.2.queue = x.queue := by
  obtain ⟨mailbox, queue, tally⟩ := x
  cases queue <;> rfl

end Inbox

namespace Connection

namespace Threads

open Inbox

variable {ι : Type} {τ τ' : List (Event ι)} {s s' : State ι} {e : Event ι} {i : ι}

/-! ### What a run has done -/

/-- The packets that were routed, from the first to the last. -/
def routed (τ : List (Event ι)) : List Packet := τ.filterMap Event.routed?

/-- The measurements that were taken, from the first to the last. -/
def taken (τ : List (Event ι)) : List Packet := τ.filterMap Event.taken?

lemma routed_concat (τ : List (Event ι)) (e : Event ι) :
    routed (τ ++ [e]) = routed τ ++ e.routed?.toList :=
  filterMap_concat_toList _ τ e

lemma taken_concat (τ : List (Event ι)) (e : Event ι) :
    taken (τ ++ [e]) = taken τ ++ e.taken?.toList :=
  filterMap_concat_toList _ τ e

/-- No command is under way. -/
def State.IsSilent (s : State ι) : Prop := ∀ i, (s.caller i).isSending = false

/-! ### One step of a connection that is not up -/

variable [DecidableEq ι]

lemma up_step (step : Step s e s') (hdown : s.up = false) : s'.up = false := by
  cases step with
  | exit | stop => rfl
  | _ => exact hdown

/-- No command is let through. -/
lemma not_step_call {command : Packet} (step : Step s (.call i command) s')
    (hdown : s.up = false) : False := by
  cases step with
  | call _ _ hup =>
    rw [hdown] at hup
    cases hup

/-- A command is turned down at once, and nothing becomes of it. -/
lemma step_refuse_iff (hdown : s.up = false) (hi : s.caller i = .idle) (command : Packet) :
    Step s (.refuse i command) s' ↔ s' = s := by
  constructor
  · rintro ⟨⟩
    rfl
  · rintro rfl
    exact .refuse command hi hdown

/-- Who is not sending a command does not begin to. -/
lemma isSending_step (step : Step s e s') (hdown : s.up = false)
    (hi : (s.caller i).isSending = false) :
    (s'.caller i).isSending = false ∧ e.commander? ≠ some i := by
  have hmove {j : ι} {x : Caller} (hx : x.isSending = false) :
      ((s.move j x).caller i).isSending = false := by
    by_cases hij : i = j
    · subst hij
      simp [State.move, hx]
    · simpa [State.move, Function.update_of_ne hij] using hi
  -- The caller that goes on with a command is another one.
  have hother {j : ι} {x y : Caller} (hj : s.caller j = x) (hx : x.isSending = true) :
      ((s.move j y).caller i).isSending = false ∧ some j ≠ some i := by
    have hij : i ≠ j := by
      rintro rfl
      rw [hj, hx] at hi
      cases hi
    refine ⟨?_, fun h => hij (Option.some.inj h).symm⟩
    simpa [State.move, Function.update_of_ne hij] using hi
  cases step with
  | call _ _ hup =>
    rw [hdown] at hup
    cases hup
  | stop | pass | takeOn | shut | join => exact ⟨hmove rfl, nofun⟩
  | prepare hj | unframed hj | write hj | spoil hj | answer _ hj | giveUp hj =>
    exact hother hj rfl
  | _ => exact ⟨hi, nofun⟩

lemma written_step (step : Step s e s') (hsilent : s.IsSilent) : s'.written = s.written := by
  cases step with
  | @write i command wire hi | @spoil i command wire bytes hi hbytes =>
    have := hsilent i
    rw [hi] at this
    cases this
  | _ => rfl

/-- The reader routes the packet that it has ahead, and then finds the connection down. -/
lemma ahead_step (step : Step s e s') (hdown : s.up = false) :
    e.routed?.toList.length + s'.reader.ahead ≤ s.reader.ahead := by
  cases step with
  | look hr =>
    rw [hr, hdown]
    exact Nat.le_refl _
  | read hr | route hr | exit hr =>
    rw [hr]
    exact Nat.le_refl _
  | silence hr | fail hr =>
    rw [hr]
    exact Nat.zero_le _
  | _ => exact Nat.le_of_eq (Nat.zero_add _)

/-- What was taken and what waits is what waited and the measurements that came in addition. -/
lemma queue_step (step : Step s e s') :
    e.taken?.toList ++ s'.inbox.queue = s.inbox.queue ++ measurements e.routed?.toList := by
  have hother {queue : List Packet} (h : queue = s.inbox.queue) :
      [] ++ queue = s.inbox.queue ++ measurements [] := by
    rw [h]
    exact (List.append_nil _).symm
  cases step with
  | @route p =>
    show (s.inbox.route p).value.queue = s.inbox.queue ++ measurements [p]
    rw [queue_route, measurements_singleton]
  | take => exact (receive_append s.inbox).trans (List.append_nil _).symm
  | prepare | unframed => exact hother (queue_discardStale s.inbox)
  | answer => exact hother (queue_claim s.inbox _ _)
  | _ => exact hother rfl

/-- While no command is under way, only what is still routed changes the mailbox and the counts. -/
lemma inbox_step (step : Step s e s') (hsilent : s.IsSilent) :
    SameButQueue s'.inbox (s.inbox.routeAll e.routed?.toList).value := by
  have hnone {j : ι} {x : Caller} (hj : s.caller j = x) (hx : x.isSending = true) : False := by
    have := hsilent j
    rw [hj, hx] at this
    cases this
  cases step with
  | take => exact .receive s.inbox
  | prepare hj | unframed hj | answer _ hj => exact (hnone hj rfl).elim
  | _ => exact .refl _

/-! ### Stops that have nothing to end -/

/-- A stop that has not found out yet that there is nothing to end is as good as none. -/
def Caller.forget : Caller → Caller
  | stopping => idle
  | x => x

def State.forget (s : State ι) : State ι := { s with caller := fun i => (s.caller i).forget }

lemma forget_move (s : State ι) (i : ι) (x : Caller) :
    (s.move i x).forget = s.forget.move i x.forget := by
  have hcaller : (fun j => ((s.move i x).caller j).forget) =
      Function.update (fun j => (s.caller j).forget) i x.forget := by
    funext j
    by_cases hij : j = i
    · subst hij
      simp [State.move]
    · simp [State.move, Function.update_of_ne hij]
  rw [State.forget, hcaller]
  rfl

omit [DecidableEq ι] in
lemma caller_forget {x : Caller} (hi : s.caller i = x) (hx : x.forget = x) :
    s.forget.caller i = x := by
  show (s.caller i).forget = x
  rw [hi, hx]

/-- Whoever has taken it on to end the reader stays the only one. -/
lemma unclaimed_step (step : Step s e s') (h : s.unclaimed = false) : s'.unclaimed = false := by
  cases step with
  | takeOn => rfl
  | _ => exact h

/-- A stop that has nothing to end changes nothing but where its caller is. -/
lemma forget_of_isIdleStop (step : Step s e s') (hdown : s.up = false)
    (he : e.isIdleStop = true) : s'.forget = s.forget := by
  have hidle {i : ι} {x : Caller} (hi : s.caller i = x) (hx : x.forget = .idle) :
      s.forget.move i .idle = s.forget := by
    have hcaller : s.forget.caller i = .idle := by
      show (s.caller i).forget = .idle
      rw [hi, hx]
    rw [State.move, ← hcaller, Function.update_eq_self]
  cases step with
  | stop hi =>
    show { (s.move _ .stopping).forget with up := false } = s.forget
    rw [forget_move, ← hdown]
    exact hidle hi rfl
  | pass hi hlater =>
    rw [forget_move]
    exact hidle hi rfl
  | _ => cases he

/-- No other step depends on it. -/
lemma step_forget (step : Step s e s') (hdown : s.up = false) (hlater : s.unclaimed = false)
    (he : e.isIdleStop = false) : Step s.forget e s'.forget := by
  cases step with
  | arrive arrivals => exact .arrive arrivals
  | look hr => exact .look hr
  | read hr hnext => exact .read hr hnext
  | silence hr hnext => exact .silence hr hnext
  | fail hr hnext => exact .fail hr hnext
  | route hr => exact .route hr
  | exit hr => exact .exit hr
  | take => exact .take
  | refuse command hi => exact .refuse command (caller_forget hi rfl) hdown
  | call command hi hup =>
    rw [forget_move]
    exact .call command (caller_forget hi rfl) hup
  | prepare hi hframe =>
    show Step s.forget _ { (s.move _ (.writing _ _)).forget with inbox := _ }
    rw [forget_move]
    exact .prepare (caller_forget hi rfl) hframe
  | unframed hi hframe =>
    show Step s.forget _ { (s.move _ .failing).forget with inbox := _ }
    rw [forget_move]
    exact .unframed (caller_forget hi rfl) hframe
  | write hi =>
    show Step s.forget _ { (s.move _ (.awaiting _)).forget with written := _ }
    rw [forget_move]
    exact .write (caller_forget hi rfl)
  | spoil hi hbytes =>
    show Step s.forget _ { (s.move _ .failing).forget with written := _ }
    rw [forget_move]
    exact .spoil (caller_forget hi rfl) hbytes
  | answer timeout hi =>
    show Step s.forget _ { (s.move _ .idle).forget with inbox := _ }
    rw [forget_move]
    exact .answer timeout (caller_forget hi rfl)
  | giveUp hi =>
    rw [forget_move]
    exact .giveUp (caller_forget hi rfl)
  | stop | pass => cases he
  | takeOn hi hfirst =>
    rw [hlater] at hfirst
    cases hfirst
  | shut hi =>
    show Step s.forget _ { (s.move _ .joining).forget with intake.source.ending := .closed }
    rw [forget_move]
    exact .shut (caller_forget hi rfl)
  | join hi hgone =>
    rw [forget_move]
    exact .join (caller_forget hi rfl) hgone

/-! ### Everything that happens after the end -/

/-- What can be said of the events `τ` that lead from a state `s` that is not up to `s'`. -/
structure Ended (s : State ι) (τ : List (Event ι)) (s' : State ι) : Prop where
  down : s'.up = false
  /-- Commands are turned down, and nothing else becomes of them. -/
  refused : ∀ i command, s'.caller i = .idle → ∀ s'', Step s' (.refuse i command) s'' ↔ s'' = s'
  uncalled : ∀ i command, .call i command ∉ τ
  /-- Only commands that were let through before go on. -/
  silent : ∀ i, (s.caller i).isSending = false →
    (s'.caller i).isSending = false ∧ ∀ e ∈ τ, e.commander? ≠ some i
  /-- If there are none, nothing is written, -/
  written : s.IsSilent → s'.written = s.written
  /-- and the mailbox and the counts change by what the reader still routes, -/
  inbox : s.IsSilent → SameButQueue s'.inbox (s.inbox.routeAll (routed τ)).value
  /-- which is one packet at most, and none once it has left its loop. -/
  ahead : (routed τ).length + s'.reader.ahead ≤ s.reader.ahead
  /-- What waited is taken in its order, and nothing of it is lost. -/
  kept : taken τ ++ s'.inbox.queue = s.inbox.queue ++ measurements (routed τ)
  /-- Once the first stop has taken it on to end the reader, the others can be left out. -/
  stops : s.unclaimed = false → s'.unclaimed = false ∧
    Trace Step s.forget (τ.filter fun e => !e.isIdleStop) s'.forget

namespace Ended

lemma refl (hdown : s.up = false) : Ended s [] s where
  down := hdown
  refused _ command hi _ := step_refuse_iff hdown hi command
  uncalled _ _ := List.not_mem_nil
  silent _ hi := ⟨hi, nofun⟩
  written _ := rfl
  inbox _ := .refl _
  ahead := Nat.le_of_eq (Nat.zero_add _)
  kept := (List.append_nil _).symm
  stops h := ⟨h, .nil _⟩

lemma isSilent (h : Ended s τ s') (hsilent : s.IsSilent) : s'.IsSilent :=
  fun i => (h.silent i (hsilent i)).1

lemma step {s'' : State ι} (h : Ended s τ s') (next : Step s' e s'') :
    Ended s (τ ++ [e]) s'' where
  down := up_step next h.down
  refused _ command hi _ := step_refuse_iff (up_step next h.down) hi command
  uncalled i command hmem := by
    rcases List.mem_append.1 hmem with hmem | hmem
    · exact h.uncalled i command hmem
    · rw [← List.mem_singleton.1 hmem] at next
      exact not_step_call next h.down
  silent i hi := by
    obtain ⟨hnow, hbefore⟩ := h.silent i hi
    obtain ⟨hlater, he⟩ := isSending_step next h.down hnow
    refine ⟨hlater, fun e' he' => ?_⟩
    rcases List.mem_append.1 he' with he' | he'
    · exact hbefore e' he'
    · rwa [List.mem_singleton.1 he']
  written hsilent := (written_step next (h.isSilent hsilent)).trans (h.written hsilent)
  inbox hsilent := by
    rw [routed_concat, value_routeAll_append]
    exact (inbox_step next (h.isSilent hsilent)).trans ((h.inbox hsilent).routeAll _)
  ahead := by
    have hstep := ahead_step next h.down
    have hbefore := h.ahead
    rw [routed_concat, List.length_append]
    omega
  kept := by
    calc taken (τ ++ [e]) ++ s''.inbox.queue
        = taken τ ++ (e.taken?.toList ++ s''.inbox.queue) := by
          rw [taken_concat, List.append_assoc]
      _ = taken τ ++ s'.inbox.queue ++ measurements e.routed?.toList := by
          rw [queue_step next, List.append_assoc]
      _ = s.inbox.queue ++ measurements (routed (τ ++ [e])) := by
          rw [h.kept, List.append_assoc, ← measurements_append, ← routed_concat]
  stops hlater := by
    obtain ⟨hclaimed, trace⟩ := h.stops hlater
    refine ⟨unclaimed_step next hclaimed, ?_⟩
    rw [List.filter_append]
    cases he : e.isIdleStop with
    | true =>
      rw [forget_of_isIdleStop next h.down he]
      simpa [he] using trace
    | false =>
      have hstep := step_forget next h.down hclaimed he
      simpa [he] using trace.trans (.single hstep)

end Ended

/-- Whatever happens once a connection is not up. -/
lemma ended_of_trace (hdown : s.up = false) (trace : Trace Step s τ s') : Ended s τ s' :=
  trace.induction (P := Ended s) (fun h next => h.step next) (.refl hdown)

/-! ### What ends a connection -/

/-- The reader and any stop end the connection, and a stop that is done has ended the reader too. -/
structure Ends (s : State ι) : Prop where
  gone : s.reader = .gone → s.up = false
  stopping : ∀ i, (s.caller i).isStopping = true → s.up = false
  claimed : s.unclaimed = false → s.up = false
  joined : s.unclaimed = false → (∀ i, (s.caller i).isEnding = false) → s.reader = .gone

omit [DecidableEq ι] in
lemma ends_new : Ends ({} : State ι) := ⟨nofun, nofun, nofun, nofun⟩

omit [DecidableEq ι] in
/-- Once the connection is not up, all that matters is whether somebody waits for the reader. -/
lemma ends_of_down (hdown : s.up = false)
    (joined : s.unclaimed = false → (∀ i, (s.caller i).isEnding = false) → s.reader = .gone) :
    Ends s :=
  ⟨fun _ => hdown, fun _ _ => hdown, fun _ => hdown, joined⟩

/-- A caller goes on that does not have to end the reader. -/
lemma ends_of_caller {x : Caller} (h : Ends s) (hi : (s.caller i).isEnding = false)
    (hcaller : s'.caller = Function.update s.caller i x) (hup : s.up = false → s'.up = false)
    (hx : x.isStopping = true → s'.up = false) (hclaimed : s'.unclaimed = s.unclaimed)
    (hreader : s'.reader = s.reader) : Ends s' where
  gone hgone := hup (h.gone (hreader ▸ hgone))
  stopping j hj := by
    by_cases hji : j = i
    · subst hji
      exact hx (by simpa [hcaller] using hj)
    · exact hup (h.stopping j (by simpa [hcaller, Function.update_of_ne hji] using hj))
  claimed hlater := hup (h.claimed (hclaimed ▸ hlater))
  joined hlater hnone := by
    rw [hreader]
    refine h.joined (hclaimed ▸ hlater) fun j => ?_
    by_cases hji : j = i
    · rw [hji, hi]
    · simpa [hcaller, Function.update_of_ne hji] using hnone j

omit [DecidableEq ι] in
/-- The reader goes on, so it was not gone and nobody has joined it. -/
lemma ends_of_reader (h : Ends s) (hr : s.reader ≠ .gone) (hr' : s'.reader ≠ .gone)
    (hup : s'.up = s.up) (hclaimed : s'.unclaimed = s.unclaimed) (hcaller : s'.caller = s.caller) :
    Ends s' where
  gone hgone := (hr' hgone).elim
  stopping := by
    rw [hcaller, hup]
    exact h.stopping
  claimed := by
    rw [hclaimed, hup]
    exact h.claimed
  joined := by
    rw [hcaller, hclaimed]
    exact fun hlater hnone => (hr (h.joined hlater hnone)).elim

lemma ends_step (h : Ends s) (step : Step s e s') : Ends s' := by
  -- As long as a caller ends the reader, nothing is promised about it.
  have hending {j : ι} {x : Caller} (hj : (s.caller j).isStopping = true)
      (hx : x.isEnding = true) (hcaller : s'.caller = Function.update s.caller j x)
      (hup : s'.up = s.up) : Ends s' := by
    refine ends_of_down (hup.trans (h.stopping j hj)) fun _ hnone => ?_
    have := hnone j
    rw [hcaller, Function.update_self, hx] at this
    cases this
  cases step with
  | arrive | take => exact ⟨h.gone, h.stopping, h.claimed, h.joined⟩
  | look hr =>
    refine ends_of_reader h (by simp [hr]) ?_ rfl rfl rfl
    show (if s.up then Reader.reading else .leaving) ≠ .gone
    split <;> simp
  | read hr | silence hr | fail hr | route hr =>
    exact ends_of_reader h (by simp [hr]) (by simp) rfl rfl rfl
  | exit => exact ends_of_down rfl fun _ _ => rfl
  | refuse => exact h
  | call _ hj | giveUp hj | pass hj | prepare hj | unframed hj | write hj | spoil hj
  | answer _ hj =>
    exact ends_of_caller h (by rw [hj]; rfl) rfl id nofun rfl rfl
  | stop hj => exact ends_of_caller h (by rw [hj]; rfl) rfl (fun _ => rfl) (fun _ => rfl) rfl rfl
  | takeOn hj => exact hending (by rw [hj]; rfl) rfl rfl rfl
  | shut hj => exact hending (by rw [hj]; rfl) rfl rfl rfl
  | join _ hgone => exact ends_of_down (h.gone hgone) fun _ _ => hgone

lemma ends_of_run (run : Run τ s) : Ends s :=
  run.induction (P := fun _ => Ends) (τ := []) (fun h step => ends_step h step) ends_new

lemma routed_of_gone (h : Ended s τ s') (hgone : s.reader = .gone) : routed τ = [] := by
  have hahead := h.ahead
  rw [hgone] at hahead
  exact List.length_eq_zero_iff.1 (Nat.le_zero.1 (Nat.le_trans (Nat.le_add_right _ _) hahead))

end Threads

/-- A stop ends a connection, and so does a node that hangs up, one before the other or not; further
stops are as good as none. A connection that is not up stays so whatever is done with it: commands
are turned down and leave everything as it is, and only what waits in the queue can still be taken,
in its order. So it is with every history of a connection and at every moment of the threads that
share one, where the reader may be amid a packet and callers amid commands that were let through
before the end. -/
theorem ends_for_good {ι : Type} [DecidableEq ι] :
    (∀ c : Connection,
      (c.stop.isRunning = false ∧ c.stop.stop = c.stop ∧ c.stop.hangUp = c.stop) ∧
      (c.hangUp.isRunning = false ∧ c.hangUp.stop = c.hangUp) ∧
      (c.isRunning = false → ∀ ops, c.AfterEnd ops)) ∧
    (∀ (τ : List (Threads.Event ι)) (s : Threads.State ι), Threads.Run τ s →
      Threads.Ends s ∧
      (s.up = false → ∀ τ' s', Trace Threads.Step s τ' s' →
        Threads.Ended s τ' s' ∧ (s.reader = .gone → Threads.routed τ' = []))) := by
  constructor
  · intro c
    refine ⟨⟨c.isRunning_stop, rfl, hangUp_of_down rfl⟩, ⟨c.isRunning_hangUp, ?_⟩, afterEnd⟩
    exact stop_of_down c.isRunning_hangUp
  · intro τ s run
    refine ⟨Threads.ends_of_run run, fun hdown τ' s' trace => ?_⟩
    have h := Threads.ended_of_trace hdown trace
    exact ⟨h, Threads.routed_of_gone h⟩

end Connection

end ControlNode
