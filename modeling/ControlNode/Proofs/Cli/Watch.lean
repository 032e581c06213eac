import ControlNode.Proofs.Cli.Arguments

/-!
# What a watch leaves on

A watch that ends well has switched its measures off again, however it ended. A command of the
set-up that fails ends it at once, and then nothing is switched off (`Watch.Course`). So measures
that were switched on stay on exactly if the watch does not end well: consumption measures that were
accepted when radio measures are asked for and not accepted, and radio measures when the node takes
them up but its answer says otherwise (`Request.run_monitor`).
-/

namespace ControlNode

/-! ### The last packet with a tag -/

namespace Command

lemma tag?_of_encode {c : Command} {p : Packet} (h : c.encode = .ok p) : p.tag? = some c.tag := by
  rw [encode.eq_def] at h
  split at h
  case h_3 | h_5 =>
    split_ifs at h
    all_goals
      cases h
      rfl
  all_goals
    cases h
    rfl

/-- The packet that switches radio measures on is not the one that switches them off. -/
lemma encode_radio_ne {ms : UInt16} {p : Packet} (h : (radio (some ms)).encode = .ok p) :
    p ≠ [0x75, 0, 0, 0] := by
  rw [encode] at h
  split_ifs at h
  cases h
  simp

/-- The packet that switches consumption measures on is not the one that switches them off. -/
lemma encode_consumption_of_isEnabled {setup : ConsumptionSetup} (h : setup.isEnabled = true) :
    ∃ p, (consumption (some setup)).encode = .ok p ∧ p ≠ [0x79, 0, 0] := by
  have hbyte : setup.circuitByte ≠ 0 := by
    have hall : ∀ period averaging : Fin 8,
        UInt8.ofNat period ||| (UInt8.ofNat averaging <<< 4) ||| 0x80 ≠ 0 := by decide
    exact hall setup.period.index setup.averaging.index
  refine ⟨[consumptionTag, setup.flags, setup.circuitByte], ?_, ?_⟩
  · rw [encode, if_pos h]
  · intro heq
    simp only [List.cons.injEq] at heq
    exact hbyte heq.2.2.1

/-- The last packet with a tag. -/
def lastWith (tag : UInt8) (ps : List Packet) : Option Packet :=
  (ps.filter fun p => p.tag? = some tag).getLast?

lemma lastWith_append (tag : UInt8) (ps later : List Packet) :
    lastWith tag (ps ++ later) = (lastWith tag later).or (lastWith tag ps) := by
  rw [lastWith, List.filter_append, List.getLast?_append]
  rfl

lemma lastWith_encode (tag : UInt8) (c : Command) :
    lastWith tag c.encode.toOption.toList = if c.tag = tag then c.encode.toOption else none := by
  cases hc : c.encode with
  | error e => exact (ite_self none).symm
  | ok p =>
    rw [Except.toOption, Option.toList_some, lastWith, List.filter_cons, tag?_of_encode hc,
      List.filter_nil]
    split_ifs <;> simp_all

lemma lastWith_packets_cons (tag : UInt8) (c : Command) (later : List Command) :
    lastWith tag (packets (c :: later)) =
      (lastWith tag (packets later)).or (if c.tag = tag then c.encode.toOption else none) := by
  rw [packets_cons, lastWith_append, lastWith_encode]

lemma lastWith_packets_eq_none {tag : UInt8} {commands : List Command}
    (h : ∀ c ∈ commands, c.tag ≠ tag) : lastWith tag (packets commands) = none := by
  induction commands with
  | nil => rfl
  | cons c later ih =>
    rw [lastWith_packets_cons, if_neg (h c List.mem_cons_self), Option.or_none]
    exact ih fun d hd => h d (List.mem_cons_of_mem c hd)

/-- Among commands with different tags, the packet of each is the last with its tag. -/
lemma lastWith_packets_of_nodup {commands : List Command} (h : (commands.map tag).Nodup)
    {c : Command} (hc : c ∈ commands) :
    lastWith c.tag (packets commands) = c.encode.toOption := by
  induction commands with
  | nil => cases hc
  | cons d later ih =>
    obtain ⟨hfirst, hlater⟩ := List.nodup_cons.1 h
    rw [lastWith_packets_cons]
    rcases List.mem_cons.1 hc with rfl | hc
    · have hnone : ∀ e ∈ later, e.tag ≠ c.tag :=
        fun e he heq => hfirst (heq ▸ List.mem_map_of_mem he)
      rw [if_pos rfl, lastWith_packets_eq_none hnone, Option.none_or]
    · have hne : d.tag ≠ c.tag := fun heq => hfirst (heq ▸ List.mem_map_of_mem hc)
      rw [if_neg hne, Option.or_none, ih hlater hc]

end Command

namespace Cli

/-! ### Watches -/

/-- What the node at the other end of a run has heard. -/
def Outcome.heard (o : Outcome) : List Packet :=
  match o.connection with
  | none => []
  | some c => c.node.heard

namespace Watch

/-- The transcript of a watch. -/
def transcript (w : Watch) (moments : List Moment) (d : Desk) : Transcript :=
  transcriptAll Desk.perform d w.setup ++
    match (sendAll Desk.perform d w.setup).value with
    | (.error _, _) => []
    | (.ok (), d) => transcriptEach Desk.perform (w.report {} d moments).value.2 w.cleanup

variable (form : Report.Form) {target : Target} {w : Watch} {moments : List Moment} {d d' : Desk}

lemma run_of_error {e : CommandError} (h : (sendAll Desk.perform d w.setup).value = (.error e, d')) :
    (w.run form target moments d).value = {
        result := .error (.failure (.ofCommandError e))
        target
        connection := some d'.session.carrier.stop } ∧
      w.transcript moments d = transcriptAll Desk.perform d w.setup := by
  rw [run, Logged.value_bind, conduct, Logged.value_bind, transcript, h]
  exact ⟨rfl, List.append_nil _⟩

lemma run_of_ok (h : (sendAll Desk.perform d w.setup).value = (.ok (), d')) :
    let reported := (w.report {} d' moments).value
    (w.run form target moments d).value = {
        result := .ok ()
        target
        reported := reported.1
        printed := String.join (reported.1.map (Report.record form))
        connection :=
          some (sendEach Desk.perform reported.2 w.cleanup).value.session.carrier.stop } ∧
      w.transcript moments d =
        transcriptAll Desk.perform d w.setup ++
          transcriptEach Desk.perform reported.2 w.cleanup := by
  rw [run, Logged.value_bind, conduct, Logged.value_bind, transcript, h]
  exact ⟨rfl, rfl⟩

/-- Over a connection that is ready and stays up, the node hears the packets of the transcript. -/
theorem heard_run (w : Watch) (h : d.session.carrier.IsReady)
    (hup : ∀ m ∈ moments, m.hangsUp = false) :
    (w.run form target moments d).value.heard =
      d.session.carrier.node.heard ++ (w.transcript moments d).packets := by
  obtain ⟨hready, hheard⟩ := Desk.heard_sendAll h w.setup
  match hsend : (sendAll Desk.perform d w.setup).value with
  | (.error e, d') =>
    obtain ⟨hrun, htranscript⟩ := run_of_error form hsend
    rw [hsend] at hheard
    rw [hrun, htranscript]
    exact hheard
  | (.ok (), d') =>
    obtain ⟨hrun, htranscript⟩ := run_of_ok form hsend
    rw [hsend] at hready hheard
    obtain ⟨hlater, hnothing⟩ := heard_report (w := w) hup hready {}
    rw [hrun, htranscript, Transcript.packets_append, ← List.append_assoc, ← hheard, ← hnothing]
    exact Desk.heard_sendEach hlater w.cleanup

/-! ### What stays on -/

/-- How a watch goes. -/
inductive Course (w : Watch) : Transcript → Except Halt Unit → Prop
  /-- The set-up is accepted, and the measures are switched off again. -/
  | finished {t : Transcript} (h : t.commands = w.cleanup) :
      Course w (Transcript.accepted w.setup ++ t) (.ok ())
  /-- A command of the set-up fails, and nothing is sent after it. -/
  | cutShort {before : List Command} {c : Command} {later : List Command} (e : CommandError)
      (h : w.setup = before ++ c :: later) :
      Course w (Transcript.accepted before ++ [(c, .error e)])
        (.error (.failure (.ofCommandError e)))

lemma course_run (target : Target) (w : Watch) (moments : List Moment) (d : Desk) :
    w.Course (w.transcript moments d) (w.run form target moments d).value.result := by
  have hattempt : Attempt w.setup (transcriptAll Desk.perform d w.setup)
      (sendAll Desk.perform d w.setup).value.1 := attempt_sendAll d w.setup
  match hsend : (sendAll Desk.perform d w.setup).value with
  | (.error e, d') =>
    obtain ⟨hrun, htranscript⟩ := run_of_error form hsend
    rw [hrun, htranscript]
    rw [hsend] at hattempt
    generalize transcriptAll Desk.perform d w.setup = t at hattempt
    cases hattempt with
    | failed before e h => exact .cutShort e h
  | (.ok (), d') =>
    obtain ⟨hrun, htranscript⟩ := run_of_ok form hsend
    rw [hrun, htranscript]
    rw [hsend] at hattempt
    generalize transcriptAll Desk.perform d w.setup = t at hattempt
    cases hattempt with
    | accepted => exact .finished (commands_transcriptEach _ _ _)

/-- After the cleanup, the last packets are those that switch the measures off. -/
lemma lastWith_cleanup (w : Watch) :
    Command.lastWith Command.consumptionTag (Command.packets w.cleanup) = some [0x79, 0, 0] ∧
      Command.lastWith Command.radioTag (Command.packets w.cleanup) =
        w.radio.map fun _ => [0x75, 0, 0, 0] := by
  obtain ⟨consumption, radio, count, deadline⟩ := w
  cases radio <;> exact ⟨rfl, rfl⟩

lemma nodup_setup (w : Watch) : (w.setup.map Command.tag).Nodup := by
  obtain ⟨consumption, radio, count, deadline⟩ := w
  cases radio with
  | none => exact (by decide : [Command.resetTimeTag, Command.consumptionTag].Nodup)
  | some ms =>
    exact (by decide : [Command.resetTimeTag, Command.consumptionTag, Command.radioTag].Nodup)

/-- Where the set-up can be cut short. -/
lemma setup_split {w : Watch} {before later : List Command} {c : Command}
    (h : w.setup = before ++ c :: later) :
    (before = [] ∧ c = .resetTime) ∨
    (before = [.resetTime] ∧ c = .consumption w.consumption) ∨
    ∃ ms, w.radio = some ms ∧ before = [.resetTime, .consumption w.consumption] ∧
      c = .radio (some ms) := by
  rw [setup] at h
  match before with
  | [] => exact .inl ⟨rfl, (List.cons.inj h).1.symm⟩
  | [a] =>
    simp only [List.cons_append, List.nil_append, List.cons.injEq] at h
    obtain ⟨rfl, rfl, -⟩ := h
    exact .inr (.inl ⟨rfl, rfl⟩)
  | a :: b :: before =>
    simp only [List.cons_append, List.nil_append, List.cons.injEq] at h
    obtain ⟨rfl, rfl, h⟩ := h
    cases hradio : w.radio with
    | none => simp [hradio] at h
    | some ms =>
      rw [hradio] at h
      have hlast : [Command.radio (some ms)] = before ++ c :: later := h
      match before with
      | [] => exact .inr (.inr ⟨ms, rfl, rfl, (List.cons.inj hlast).1.symm⟩)
      | d :: before => simp at hlast

namespace Course

variable {t : Transcript} {result : Except Halt Unit}

/-- A watch that ends well has switched its measures off. -/
lemma lastWith_of_ok (h : w.Course t (.ok ())) :
    Command.lastWith Command.consumptionTag t.packets = some [0x79, 0, 0] ∧
      Command.lastWith Command.radioTag t.packets = w.radio.map fun _ => [0x75, 0, 0, 0] := by
  cases h with
  | @finished t h =>
    obtain ⟨hconsumption, hradio⟩ := lastWith_cleanup w
    rw [Transcript.packets, Transcript.commands_append, Transcript.commands_accepted, h,
      Command.packets_append, Command.lastWith_append, Command.lastWith_append, hconsumption,
      hradio]
    refine ⟨rfl, ?_⟩
    cases hperiod : w.radio with
    | some ms => rfl
    | none =>
      refine Command.lastWith_packets_eq_none fun c hc => ?_
      simp only [setup, hperiod, Option.map_none, Option.toList_none, List.append_nil,
        List.mem_cons, List.not_mem_nil, or_false] at hc
      rcases hc with rfl | rfl
      · exact (by decide : Command.resetTimeTag ≠ Command.radioTag)
      · exact (by decide : Command.consumptionTag ≠ Command.radioTag)

/-- A watch ends well if its whole set-up was accepted, and only then. -/
lemma ok_iff (h : w.Course t result) : result = .ok () ↔ ∀ c ∈ w.setup, t.Accepts c := by
  cases h with
  | finished h =>
    refine iff_of_true rfl fun c hc => List.mem_append_left _ ?_
    exact List.mem_map_of_mem hc
  | @cutShort before c later e h =>
    refine iff_of_false nofun fun hall => ?_
    have hbefore : c ∈ before := by
      refine Transcript.accepts_cutShort_iff.1 (hall c ?_)
      rw [h]
      exact List.mem_append_right _ List.mem_cons_self
    obtain ⟨rfl, rfl⟩ | ⟨rfl, rfl⟩ | ⟨ms, -, rfl, rfl⟩ := setup_split h <;> simp at hbefore

/-- A watch that is cut short has sent its commands once each. -/
lemma lastWith_of_cutShort {before later : List Command} {c d : Command} {e : CommandError}
    (h : w.setup = before ++ c :: later)
    (hsent : d ∈ (Transcript.accepted before ++ [(c, Except.error e)]).commands) :
    Command.lastWith d.tag (Transcript.accepted before ++ [(c, Except.error e)]).packets =
      d.encode.toOption := by
  have hcommands : (Transcript.accepted before ++ [(c, Except.error e)]).commands =
      before ++ [c] := by
    rw [Transcript.commands_append, Transcript.commands_accepted]
    rfl
  have hfirst : before ++ [c] <+: w.setup := ⟨later, by rw [h, List.append_assoc]; rfl⟩
  rw [hcommands] at hsent
  rw [Transcript.packets, hcommands]
  exact Command.lastWith_packets_of_nodup (w.nodup_setup.sublist (hfirst.sublist.map _)) hsent

/-- Once consumption measures were switched on, they are switched off exactly if the watch ends
well. -/
lemma lastWith_of_consumption {setup : ConsumptionSetup} (h : w.Course t result)
    (hsetup : setup.isEnabled = true) (hsent : .consumption (some setup) ∈ t.commands) :
    Command.lastWith Command.consumptionTag t.packets = some [0x79, 0, 0] ↔ result = .ok () := by
  have hcourse := h
  cases h with
  | finished h => exact iff_of_true hcourse.lastWith_of_ok.1 rfl
  | cutShort e h =>
    obtain ⟨p, hp, hne⟩ := Command.encode_consumption_of_isEnabled hsetup
    have hlast := lastWith_of_cutShort h hsent
    rw [hp] at hlast
    refine iff_of_false (fun hoff => ?_) (by simp)
    exact hne (Option.some.inj (hlast.symm.trans hoff))

/-- Once radio measures were switched on, they are switched off exactly if the watch ends well. -/
lemma lastWith_of_radio {ms : UInt16} (h : w.Course t result)
    (hsent : .radio (some ms) ∈ t.commands) :
    Command.lastWith Command.radioTag t.packets = some [0x75, 0, 0, 0] ↔ result = .ok () := by
  have hcourse := h
  cases h with
  | @finished t h =>
    have hradio : w.radio ≠ none := by
      intro hnone
      rw [Transcript.commands_append, Transcript.commands_accepted, h] at hsent
      simp [setup, cleanup, hnone] at hsent
    obtain ⟨period, hperiod⟩ := Option.ne_none_iff_exists'.1 hradio
    refine iff_of_true ?_ rfl
    rw [hcourse.lastWith_of_ok.2, hperiod]
    rfl
  | cutShort e h =>
    have hlast := lastWith_of_cutShort h hsent
    refine iff_of_false (fun hoff => ?_) (by simp)
    have hp : (Command.radio (some ms)).encode.toOption = some [0x75, 0, 0, 0] :=
      hlast.symm.trans hoff
    cases hencode : (Command.radio (some ms)).encode with
    | error e =>
      rw [hencode] at hp
      cases hp
    | ok p =>
      rw [hencode] at hp
      exact Command.encode_radio_ne hencode (Option.some.inj hp)

/-- After consumption measures were accepted, only radio measures can fail. -/
lemma radio_of_error {setup : Option ConsumptionSetup} {halt : Halt}
    (h : w.Course t (.error halt)) (haccepts : t.Accepts (.consumption setup)) :
    ∃ ms e, w.radio = some ms ∧ (Command.radio (some ms), Except.error e) ∈ t ∧
      halt = .failure (.ofCommandError e) := by
  cases h with
  | @cutShort before c later e h =>
    have hbefore := Transcript.accepts_cutShort_iff.1 haccepts
    obtain ⟨rfl, rfl⟩ | ⟨rfl, rfl⟩ | ⟨ms, hradio, rfl, rfl⟩ := setup_split h
    · cases hbefore
    · simp at hbefore
    · exact ⟨ms, e, hradio, List.mem_append_right _ List.mem_cons_self, rfl⟩

end Course

end Watch

/-! ### Requests -/

/-- The desk of a watch over a new connection. -/
def Host.desk (host : Host) (time : Float) (c : Connection) : Desk where
  session := { clock := time, carrier := c }
  paces := host.paces

/-- The watch that a plan is, at its desk, if the host has what it needs. -/
def Plan.watch? (time : Float) (host : Host) : Plan → Option (Watch × Desk)
  | .watch target w =>
    match host.open target, host.worker with
    | .ok c, .ok () => some (w, host.desk time c)
    | _, _ => none
  | _ => none

/-- The watch that a request comes to, at its desk. -/
def Request.watch? (now : Duration) (time : Float) (host : Host) (r : Request) :
    Option (Watch × Desk) :=
  (r.plan now host.handler).toOption.bind (Plan.watch? time host)

/-- The transcript of the watch that a request comes to. -/
def Request.transcript (now : Duration) (time : Float) (host : Host) (r : Request) : Transcript :=
  match r.watch? now time host with
  | none => []
  | some (w, d) => w.transcript host.moments d

/-- Whether the link to a device stays up from its start: the node at the other end waits for a
frame and has heard nothing, and it never hangs up. -/
structure Host.StaysUp (host : Host) (device : DeviceChoice) : Prop where
  node : ∀ target n, device.Means target → host.line target = .ok n →
    n.decoder.isIdle = true ∧ n.heard = []
  moments : ∀ m ∈ host.moments, m.hangsUp = false

lemma exists_of_bind_eq_ok {ε α β : Type} {x : Except ε α} {f : α → Except ε β} {b : β}
    (h : x >>= f = .ok b) : ∃ a, x = .ok a ∧ f a = .ok b := by
  cases x with
  | error e => cases h
  | ok a => exact ⟨a, rfl, h⟩

lemma exists_of_bind_eq_error {ε α β : Type} {x : Except ε α} {f : α → Except ε β} {e : ε}
    (h : x >>= f = .error e) : x = .error e ∨ ∃ a, x = .ok a ∧ f a = .error e := by
  cases x with
  | error e' =>
    cases h
    exact .inl rfl
  | ok a => exact .inr ⟨a, rfl, h⟩

namespace Request

variable {device : DeviceChoice} {measures : MeasureChoice} {period : Option UInt16}
  {count : Option Nat} {duration : Option String} {now : Duration} {handler : Except String Unit}

/-- What a monitor request comes to whose arguments are right. -/
structure Monitors (device : DeviceChoice) (period : Option UInt16) (count : Option Nat)
    (target : Target) (w : Watch) : Prop where
  target : device.Means target
  radio : w.radio = period
  count : w.count = count

/-- A monitor request whose arguments are right is a watch over its device, with the period and the
limit that were asked for. -/
lemma plan_monitor {p : Plan}
    (h : (monitor device measures period count duration).plan now handler = .ok p) :
    ∃ target w, p = .watch target w ∧ Monitors device period count target w := by
  rw [plan] at h
  obtain ⟨setup, -, h⟩ := exists_of_bind_eq_ok h
  obtain ⟨chosen, hchosen, h⟩ := exists_of_bind_eq_ok h
  obtain ⟨deadline, -, h⟩ := exists_of_bind_eq_ok h
  obtain ⟨-, -, h⟩ := exists_of_bind_eq_ok h
  obtain ⟨target, htarget, h⟩ := exists_of_bind_eq_ok h
  have hperiod := checked_radioPeriod period
  rw [show Halt.lift (radioPeriod period) = .ok chosen from hchosen] at hperiod
  have hmeans := checked_target device
  rw [show Halt.lift device.target = .ok target from htarget] at hmeans
  exact ⟨target, _, (Except.ok.inj h).symm, hmeans.2, hperiod.2.1, rfl⟩

/-- The watch that a request comes to is what its run is. -/
lemma run_of_watch? {now : Duration} {time : Float} {host : Host} {r : Request} {w : Watch}
    {d : Desk} (h : r.watch? now time host = some (w, d)) :
    ∃ target n, r.plan now host.handler = .ok (.watch target w) ∧ host.line target = .ok n ∧
      d = host.desk time { timeout := target.timeout, node := n } ∧
      ∀ form, r.run form now time host = w.run form target host.moments d := by
  rw [watch?] at h
  cases hplan : r.plan now host.handler with
  | error halt =>
    rw [hplan] at h
    cases h
  | ok p =>
    rw [hplan] at h
    match p with
    | .print _ => cases h
    | .listDevices => cases h
    | .send _ _ _ => cases h
    | .watch target w' =>
      replace h : Plan.watch? time host (.watch target w') = some (w, d) := h
      cases hline : host.line target with
      | error e =>
        simp [Plan.watch?, Host.open_of_error hline] at h
      | ok n =>
        have hopen := Host.open_of_ok hline
        cases hworker : host.worker with
        | error text => simp [Plan.watch?, hopen, hworker] at h
        | ok u =>
          simp only [Plan.watch?, hopen, hworker, Option.some.injEq, Prod.mk.injEq] at h
          obtain ⟨rfl, rfl⟩ := h
          refine ⟨target, n, rfl, hline, rfl, fun form => ?_⟩
          rw [run, hplan]
          simp only [Plan.run, hopen, hworker]
          rfl

/-- A monitor request that comes to no watch fails before anything is sent. -/
lemma run_of_watch?_eq_none {time : Float} {host : Host}
    (h : (monitor device measures period count duration).watch? now time host = none)
    (form : Report.Form) :
    let o := ((monitor device measures period count duration).run form now time host).value
    (∃ halt, o.result = .error halt) ∧ o.reported = [] ∧ o.printed = "" ∧
      ∀ c, o.connection = some c → ∃ target n, device.Means target ∧ host.line target = .ok n ∧
        c.node = n := by
  rw [watch?] at h
  rw [run]
  cases hplan : (monitor device measures period count duration).plan now host.handler with
  | error halt => exact ⟨⟨halt, rfl⟩, rfl, rfl, by simp⟩
  | ok p =>
    obtain ⟨target, w, rfl, hmonitors⟩ := plan_monitor hplan
    rw [hplan] at h
    replace h : Plan.watch? time host (.watch target w) = none := h
    cases hline : host.line target with
    | error e =>
      simp only [Plan.run, Host.open_of_error hline]
      exact ⟨⟨_, rfl⟩, rfl, rfl, by simp⟩
    | ok n =>
      have hopen := Host.open_of_ok hline
      cases hworker : host.worker with
      | ok u => simp [Plan.watch?, hopen, hworker] at h
      | error text =>
        simp only [Plan.run, hopen, hworker]
        refine ⟨⟨_, rfl⟩, rfl, rfl, ?_⟩
        rintro c ⟨⟩
        exact ⟨target, n, hmonitors.target, hline, rfl⟩

/-- What a monitor request leaves on. -/
structure Leaves (r : Request) (period : Option UInt16) (now : Duration) (time : Float)
    (host : Host) (o : Outcome) : Prop where
  /-- The node hears exactly the packets of the transcript. -/
  heard : o.heard = (r.transcript now time host).packets
  /-- However the watch ends, the run ends well if the whole set-up was accepted, and only then. -/
  ends : ∀ w d, r.watch? now time host = some (w, d) →
    (o.result = .ok () ↔ ∀ c ∈ w.setup, (r.transcript now time host).Accepts c)
  /-- When it ends well, the last packet for each measure switches it off. -/
  finished : o.result = .ok () →
    Command.lastWith Command.consumptionTag o.heard = some [0x79, 0, 0] ∧
    Command.lastWith Command.radioTag o.heard = period.map fun _ => [0x75, 0, 0, 0]
  /-- Consumption measures that were switched on are switched off only then. -/
  consumption (setup : ConsumptionSetup) : setup.isEnabled = true →
    .consumption (some setup) ∈ (r.transcript now time host).commands →
    (Command.lastWith Command.consumptionTag o.heard = some [0x79, 0, 0] ↔ o.result = .ok ())
  /-- Radio measures that were switched on are switched off only then. -/
  radio (ms : UInt16) : .radio (some ms) ∈ (r.transcript now time host).commands →
    (Command.lastWith Command.radioTag o.heard = some [0x75, 0, 0, 0] ↔ o.result = .ok ())
  /-- Once consumption measures were accepted, it ends otherwise only when the command for radio
  measures fails. -/
  cause (setup : Option ConsumptionSetup) (halt : Halt) :
    (r.transcript now time host).Accepts (.consumption setup) → o.result = .error halt →
    ∃ ms e, period = some ms ∧
      (Command.radio (some ms), Except.error e) ∈ r.transcript now time host ∧
      halt = .failure (.ofCommandError e)

namespace Leaves

variable {r : Request} {time : Float} {host : Host} {o : Outcome}

/-- A request that comes to no watch leaves nothing on. -/
lemma of_none {halt : Halt} (hwatch : r.watch? now time host = none)
    (hresult : o.result = .error halt) (hheard : o.heard = []) : r.Leaves period now time host o := by
  have ht : r.transcript now time host = [] := by rw [transcript, hwatch]
  constructor
  case heard =>
    rw [hheard, ht]
    rfl
  case ends => exact fun w d h => nomatch hwatch.symm.trans h
  case finished => exact fun h => nomatch hresult.symm.trans h
  case consumption =>
    rw [ht]
    exact fun setup hsetup => nofun
  case radio =>
    rw [ht]
    exact fun ms => nofun
  case cause =>
    rw [ht]
    exact fun setup halt h => absurd h List.not_mem_nil

/-- A request that comes to a watch leaves on what the watch does. -/
lemma of_course {w : Watch} {d : Desk} (hwatch : r.watch? now time host = some (w, d))
    (hcourse : w.Course (r.transcript now time host) o.result)
    (hheard : o.heard = (r.transcript now time host).packets) :
    r.Leaves w.radio now time host o := by
  constructor
  case heard => exact hheard
  case ends =>
    intro w' d' h
    obtain ⟨rfl, -⟩ := Prod.mk.inj (Option.some.inj (hwatch.symm.trans h))
    exact hcourse.ok_iff
  case finished =>
    intro hok
    rw [hok] at hcourse
    rw [hheard]
    exact hcourse.lastWith_of_ok
  case consumption =>
    rw [hheard]
    exact fun setup => hcourse.lastWith_of_consumption
  case radio =>
    rw [hheard]
    exact fun ms => hcourse.lastWith_of_radio
  case cause =>
    intro setup halt haccepts herror
    rw [herror] at hcourse
    exact hcourse.radio_of_error haccepts

end Leaves

/-- What a monitor request leaves on over a link that stays up, whatever its arguments are, whatever
the node replies and however the watch ends. -/
theorem run_monitor (form : Report.Form) (now : Duration) (time : Float) (host : Host)
    (device : DeviceChoice) (measures : MeasureChoice) (period : Option UInt16)
    (count : Option Nat) (duration : Option String) (hup : host.StaysUp device) :
    let r := monitor device measures period count duration
    r.Leaves period now time host (r.run form now time host).value := by
  intro r
  cases hwatch : r.watch? now time host with
  | none =>
    obtain ⟨⟨halt, hresult⟩, -, -, hconnection⟩ := run_of_watch?_eq_none hwatch form
    refine .of_none hwatch hresult ?_
    rw [Outcome.heard]
    split
    · rfl
    · next c hc =>
      obtain ⟨target, n, hmeans, hline, rfl⟩ := hconnection c hc
      exact (hup.node target c.node hmeans hline).2
  | some watch =>
    obtain ⟨w, d⟩ := watch
    obtain ⟨target, n, hplan, hline, hd, hrun⟩ := run_of_watch? hwatch
    obtain ⟨_, _, ⟨⟩, hmeans, rfl, -⟩ := plan_monitor hplan
    obtain ⟨hidle, hnothing⟩ := hup.node target n hmeans hline
    have hready : d.session.carrier.IsReady := hd ▸ Connection.isReady_new hidle target.timeout
    have hfresh : d.session.carrier.node.heard = [] := hd ▸ hnothing
    have ht : r.transcript now time host = w.transcript host.moments d := by
      rw [transcript, hwatch]
    rw [hrun form]
    refine .of_course hwatch ?_ ?_
    · rw [ht]
      exact w.course_run form target host.moments d
    · rw [ht, Watch.heard_run form w hready hup.moments, hfresh, List.nil_append]

end Request

/-! ### A node without radio measures -/

/-- A node that accepts consumption measures and refuses radio measures. -/
def stubborn : Node where
  replies := [some [[0x80, 0x02, 0x72, 0x0A]], some [[0x80, 0x02, 0x79, 0x0A]],
    some [[0x80, 0x02, 0x75, 0x02]]]

def stubbornHost : Host := { line := fun _ => .ok stubborn }

lemma staysUp_stubbornHost (device : DeviceChoice) : stubbornHost.StaysUp device where
  node := by
    rintro target n - ⟨⟩
    exact ⟨rfl, rfl⟩
  moments := nofun

def portP : DeviceChoice := { tty := "p", baud := 921600, timeout := "1s" }

def voltageOnly : MeasureChoice where
  rail := .v3_3
  power := false
  voltage := true
  current := false
  period := 2116
  average := 512

/-- Asks for the voltage and for radio measures every seven milliseconds. -/
def voltageAndRadio : Request := .monitor portP voltageOnly (some 7) (some 1) none

def targetP : Target := { path := "p", baud := 921600, timeout := .ofSeconds 1 }

/-- The watch that is asked for. -/
def stubbornWatch : Watch where
  consumption := some { voltage := true }
  radio := some 7
  count := some 1
  deadline := none

/-- The desk that it is run at. -/
def stubbornDesk : Desk :=
  stubbornHost.desk 0 { timeout := .ofSeconds 1, node := stubborn }

lemma plan_voltageAndRadio :
    voltageAndRadio.plan ⟨0⟩ (.ok ()) = .ok (.watch targetP stubbornWatch) := by
  have htimeout : readDuration "1s" = .ok (.ofSeconds 1) := by decide +kernel
  have hsetup : voltageOnly.setup = .ok (some { voltage := true }) := by decide +kernel
  rw [voltageAndRadio, Request.plan, hsetup, portP, DeviceChoice.target, htimeout]
  rfl

lemma watch?_voltageAndRadio :
    voltageAndRadio.watch? ⟨0⟩ 0 stubbornHost = some (stubbornWatch, stubbornDesk) := by
  rw [Request.watch?, show stubbornHost.handler = .ok () from rfl, plan_voltageAndRadio]
  rfl

lemma transcript_voltageAndRadio : voltageAndRadio.transcript ⟨0⟩ 0 stubbornHost =
    [(.resetTime, .ok ()), (.consumption (some { voltage := true }), .ok ()),
      (.radio (some 7), .error (.refused 0x75))] := by
  rw [Request.transcript, watch?_voltageAndRadio]
  decide +kernel

theorem Request.run_monitor_stubborn :
    stubbornHost.StaysUp portP ∧
      .consumption (some { voltage := true }) ∈
        (voltageAndRadio.transcript ⟨0⟩ 0 stubbornHost).commands ∧
      let o := (voltageAndRadio.run .json ⟨0⟩ 0 stubbornHost).value
      (Command.lastWith Command.consumptionTag o.heard = some [0x79, 0, 0] ↔
        o.result = .ok ()) := by
  have hleaves := Request.run_monitor .json ⟨0⟩ 0 stubbornHost portP voltageOnly (some 7) (some 1)
    none (staysUp_stubbornHost portP)
  have hsent : .consumption (some { voltage := true }) ∈
      (voltageAndRadio.transcript ⟨0⟩ 0 stubbornHost).commands := by
    rw [transcript_voltageAndRadio]
    exact List.mem_cons_of_mem _ List.mem_cons_self
  exact ⟨staysUp_stubbornHost portP, hsent, hleaves.consumption _ rfl hsent⟩

/-- The node goes on measuring the voltage when the run is over. -/
theorem Request.consumption_stays_on :
    let o := (voltageAndRadio.run .json ⟨0⟩ 0 stubbornHost).value
    (voltageAndRadio.transcript ⟨0⟩ 0 stubbornHost).Accepts
        (.consumption (some { voltage := true })) ∧
      o.code = some Code.failure.number ∧
      o.heard = [[0x72], [0x79, 0x12, 0xE5], [0x75, 0x01, 0x07, 0x00]] ∧
      Command.lastWith Command.consumptionTag o.heard ≠ some [0x79, 0, 0] := by
  intro o
  have ho : o = (stubbornWatch.run .json targetP [] stubbornDesk).value := by
    obtain ⟨target, n, hplan, -, -, hrun⟩ := Request.run_of_watch? watch?_voltageAndRadio
    cases hplan.symm.trans plan_voltageAndRadio
    exact congrArg Logged.value (hrun .json)
  have haccepts : (voltageAndRadio.transcript ⟨0⟩ 0 stubbornHost).Accepts
      (.consumption (some { voltage := true })) := by
    rw [transcript_voltageAndRadio]
    exact List.mem_cons_of_mem _ List.mem_cons_self
  have hcode : o.code = some Code.failure.number := by
    rw [ho]
    decide +kernel
  have hheard : o.heard = [[0x72], [0x79, 0x12, 0xE5], [0x75, 0x01, 0x07, 0x00]] := by
    rw [ho]
    decide +kernel
  refine ⟨haccepts, hcode, hheard, ?_⟩
  rw [hheard]
  decide

end Cli

end ControlNode
