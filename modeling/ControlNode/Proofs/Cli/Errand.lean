import ControlNode.Proofs.Cli.Arguments
import ControlNode.Proofs.Connection.Reply

/-!
# Errands

An errand is a request for one command. Its arguments stand for one command only
(`Request.Denotes.unique`), the frame of the command is all that is written, and the exit code tells
what the answer is, whatever else the node sends (`Request.run_errand`).
-/

namespace ControlNode

/-! ### The command of an errand -/

lemma Period.eq_of_micros {p q : Period} (h : p.micros = q.micros) : p = q := by
  have hall : ∀ i j : Fin 8, (Period.mk i).micros = (Period.mk j).micros → i = j := by decide
  exact congrArg Period.mk (hall p.index q.index h)

lemma Averaging.eq_of_count {a b : Averaging} (h : a.count = b.count) : a = b := by
  have hall : ∀ i j : Fin 8, (Averaging.mk i).count = (Averaging.mk j).count → i = j := by decide
  exact congrArg Averaging.mk (hall a.index b.index h)

namespace Cli

open Inbox

lemma MeasureChoice.Means.unique {m : MeasureChoice} {setup setup' : Option ConsumptionSetup}
    (h : m.Means setup) (h' : m.Means setup') : setup = setup' := by
  cases h with
  | nothing hnone =>
    cases h' with
    | nothing => rfl
    | quantities hsome => simp [hnone] at hsome
  | quantities hsome hperiod haverage =>
    cases h' with
    | nothing hnone => simp [hnone] at hsome
    | quantities hsome' hperiod' haverage' =>
      rw [Period.eq_of_micros (hperiod.trans hperiod'.symm),
        Averaging.eq_of_count (haverage.trans haverage'.symm)]

namespace Request

/-- A request stands for one command at most. -/
lemma Denotes.unique {r : Request} {c c' : Command} (h : r.Denotes c) (h' : r.Denotes c') :
    c = c' := by
  cases h with
  | power | resetTime | consumptionOff | radio | radioOff =>
    cases h'
    rfl
  | consumption hmeans =>
    cases h' with
    | consumption hmeans' => rw [hmeans.unique hmeans']

/-- Whether a request is for one command. -/
def IsErrand : Request → Prop
  | .power _ _ _ => True
  | .resetTime _ => True
  | .consumption _ _ _ => True
  | .radio _ _ _ => True
  | .monitor _ _ _ _ _ => False
  | .devices => False
  | .version _ => False

end Request

/-! ### The outcome of an errand -/

lemma commandDone_ne_empty (form : Report.Form) (command device : String) (seconds : Nat) :
    Report.commandDone form command device seconds ≠ "" := by
  cases form <;>
    simp [Report.commandDone, Report.Table.render, Report.Table.rule, String.append_eq_empty_iff]

/-- The exit code after a command. -/
def codeOf : Except CommandError Unit → Nat
  | .ok () => Code.success.number
  | .error e => (Failure.codeOfCommandError e).number

/-- What the exit code tells about the packets that have arrived for a command. -/
structure Answers (tag : UInt8) (arrived : List Packet) (code : Option Nat) : Prop where
  accepted : code = some 0 ↔ ∃ a, IsLastAnswer arrived a ∧ [tag, 0x0A] <+: a
  refused : code = some 1 ↔ ∃ a, IsLastAnswer arrived a ∧ [tag, 0x02] <+: a
  silent : code = some 124 ↔ ∀ p ∈ arrived, ¬ p.IsAnswer
  unexpected : code = some 60 ↔
    ∃ a, IsLastAnswer arrived a ∧ ¬ [tag, 0x0A] <+: a ∧ ¬ [tag, 0x02] <+: a
  usage : code ≠ some 64

section

variable {tag : UInt8} {arrived : List Packet} {result : Except CommandError Unit}

/-- The exit codes tell the outcomes of a command apart. -/
lemma codeOf_eq_iff (h : Session.Outcome tag arrived result) :
    (codeOf result = 0 ↔ result = .ok ()) ∧
    (codeOf result = 1 ↔ result = .error (.refused tag)) ∧
    (codeOf result = 124 ↔ result = .error (.timeout tag)) ∧
    (codeOf result = 60 ↔ ∃ a, result = .error (.unexpectedAnswer tag a)) ∧
    codeOf result ≠ 64 := by
  cases h <;> simp [codeOf, Failure.codeOfCommandError, Code.number]

/-- Each exit code stands for one kind of answer. -/
lemma answers_of_judge (h : Command.judge tag (lastAnswer? arrived) = result) :
    Answers tag arrived (some (codeOf result)) := by
  have houtcome (result' : Except CommandError Unit) :
      result = result' ↔ Session.Outcome tag arrived result' := by
    rw [← h, Session.judge_lastAnswer?_eq_iff]
  obtain ⟨hsuccess, hrefused, htimeout, hunexpected, husage⟩ :=
    codeOf_eq_iff ((houtcome result).1 rfl)
  simp only [houtcome] at hsuccess hrefused htimeout hunexpected
  constructor
  case accepted =>
    rw [Option.some.injEq, hsuccess]
    exact ⟨fun | .accepted hlast ha => ⟨_, hlast, ha⟩, fun ⟨a, hlast, ha⟩ => .accepted hlast ha⟩
  case refused =>
    rw [Option.some.injEq, hrefused]
    exact ⟨fun | .refused hlast ha => ⟨_, hlast, ha⟩, fun ⟨a, hlast, ha⟩ => .refused hlast ha⟩
  case silent =>
    rw [Option.some.injEq, htimeout]
    exact ⟨fun | .timeout hnone => hnone, .timeout⟩
  case unexpected =>
    rw [Option.some.injEq, hunexpected]
    exact ⟨fun | ⟨a, .unexpected hlast hacceptance hrefusal⟩ => ⟨a, hlast, hacceptance, hrefusal⟩,
      fun ⟨a, hlast, hacceptance, hrefusal⟩ => ⟨a, .unexpected hlast hacceptance hrefusal⟩⟩
  case usage =>
    rwa [ne_eq, Option.some.injEq]

end

/-- Sending one command ends as its result says. -/
lemma value_sendOne (form : Report.Form) (target : Target) (name : String) (c : Command)
    (s : Session Connection) :
    let done := (s.perform c).value
    let o := (sendOne form target name c s).value
    o.code = some (codeOf done.1) ∧
      o.printed = (if o.code = some 0 then
        Report.commandDone form name target.path s.clock.toUInt64.toNat else "") ∧
      o.connection = some done.2.carrier.stop := by
  have hclock := s.clock_perform c
  rw [sendOne, Logged.value_bind]
  generalize (s.perform c).value = done at hclock ⊢
  obtain ⟨e | u, s'⟩ := done
  · have hfailed : some (codeOf (.error e)) ≠ some 0 := by
      cases e <;> simp [codeOf, Failure.codeOfCommandError, Code.number]
    exact ⟨rfl, (if_neg hfailed).symm, rfl⟩
  · rw [← hclock]
    exact ⟨rfl, rfl, rfl⟩

/-- What the run of an errand comes to whose command goes to a node. -/
structure Outcome.Serves (o : Outcome) (form : Report.Form) (time : Float) (device : DeviceChoice)
    (n : Node) (c : Command) (p : Packet) (frame : List UInt8) : Prop where
  encoded : c.encode = .ok p
  framed : Frame.encode p = .ok frame
  /-- The frame is all that is written. -/
  written : o.connection.map Connection.node = some (n.hear frame).2
  heard : n.decoder.isIdle = true → (n.hear frame).2.heard = n.heard ++ [p]
  /-- The last answer that the reply completes decides the exit code. -/
  answers : Answers c.tag (Connection.completed (n.hear frame).1) o.code
  printed : o.printed = (if o.code = some 0 then
    Report.commandDone form (reportName c) device.tty time.toUInt64.toNat else "")
  reported : o.printed ≠ "" ↔ o.code = some 0

namespace Request

/-- An errand with right arguments sends its command over a new connection. -/
lemma run_eq_sendOne {r : Request} {device : DeviceChoice} {host : Host} {n : Node}
    (now : Duration) (herrand : r.IsErrand) (hdevice : r.device? = some device)
    (hright : r.IsAdmissible)
    (hline : ∀ target, device.Means target → host.line target = .ok n) :
    ∃ c target, r.Denotes c ∧ device.Means target ∧ ∀ form time, r.run form now time host =
      sendOne form target (reportName c) c
        { clock := time, carrier := { timeout := target.timeout, node := n } } := by
  have hclock : r.FitsClock now := by
    cases r <;> trivial
  have hhandled : r.IsHandled host.handler := by
    intro hwatch
    cases r <;> first | exact hwatch.elim | exact herrand.elim
  have hchecked := checked_plan hdevice hclock hhandled
  cases hplan : r.plan now host.handler with
  | error halt =>
    rw [hplan] at hchecked
    exact absurd hright hchecked.1
  | ok plan =>
    rw [hplan] at hchecked
    obtain ⟨-, target, htarget, hmeans⟩ := hchecked
    cases hmeans with
    | watch => exact herrand.elim
    | @command r c hc =>
      refine ⟨c, target, hc, htarget, fun form time => ?_⟩
      rw [run, hplan]
      simp only [Plan.run, Host.open_of_ok (hline target htarget)]

/-- The run of an errand with right arguments whose device can be opened, whatever the node replies:
its arguments stand for one command, and this one is served. -/
theorem run_errand (form : Report.Form) (now : Duration) (time : Float) (host : Host) (r : Request)
    (device : DeviceChoice) (n : Node) (herrand : r.IsErrand) (hdevice : r.device? = some device)
    (hright : r.IsAdmissible)
    (hline : ∀ target, device.Means target → host.line target = .ok n) :
    ∃ c p frame, (∀ c', r.Denotes c' ↔ c' = c) ∧
      (r.run form now time host).value.Serves form time device n c p frame := by
  obtain ⟨c, target, hc, htarget, hrun⟩ := run_eq_sendOne now herrand hdevice hright hline
  obtain ⟨p, hp⟩ := hc.exists_packet
  obtain ⟨frame, hframe⟩ := Command.exists_frame hp
  refine ⟨c, p, frame, fun c' => ⟨fun h => h.unique hc, fun h => h ▸ hc⟩, ?_⟩
  let s : Session Connection :=
    { clock := time, carrier := { timeout := target.timeout, node := n } }
  obtain ⟨hcode, hprinted, hconnection⟩ := value_sendOne form target (reportName c) c s
  obtain ⟨hanswer, hnode⟩ := Connection.exchange_of_new n target.timeout hframe
  have hjudge : Command.judge c.tag (lastAnswer? (Connection.completed (n.hear frame).1)) =
      (s.perform c).value.1 := by
    rw [Session.result_perform hp, ← hanswer]
    rfl
  rw [hrun]
  constructor
  case encoded => exact hp
  case framed => exact hframe
  case written =>
    rw [hconnection, Option.map_some, Session.carrier_perform hp]
    exact congrArg some hnode
  case heard => exact fun hidle => (Node.hear_of_isIdle hidle hframe).2
  case answers =>
    rw [hcode]
    exact answers_of_judge hjudge
  case printed => rw [hprinted, htarget.path]
  case reported =>
    rw [hprinted]
    split_ifs with hzero
    · exact iff_of_true (commandDone_ne_empty _ _ _ _) hzero
    · exact iff_of_false (fun h => h rfl) hzero

/-- A node that sends noise, a measurement, an error report, a refusal, an acceptance and the start
of another frame, in pieces that do not end where these do. -/
def chatty : Node where
  replies := [some [[0x00, 0x80, 0x03], [0xFF, 0x72, 0x0A, 0x80, 0x02, 0xEE, 0x41, 0x80],
    [0x02, 0x70, 0x02, 0x80, 0x02, 0x70, 0x0A, 0x80, 0x05, 0x01]]]

/-- Asks to switch the open node on. -/
def startOnDc : Request := .power .start { tty := "p", baud := 500000, timeout := "1s" } .dc

theorem run_errand_chatty :
    let host : Host := { line := fun _ => .ok chatty }
    let o := (startOnDc.run .json ⟨0⟩ 0 host).value
    startOnDc.IsAdmissible ∧ o.code = some 0 ∧
      o.connection.map (fun c => c.node.heard) = some [[0x70, 0x01]] := by
  intro host o
  have hright : startOnDc.IsAdmissible := ⟨.ofSeconds 1, by decide +kernel⟩
  obtain ⟨c, p, frame, hc, hserves⟩ :=
    run_errand .json ⟨0⟩ 0 host startOnDc _ chatty trivial rfl hright fun _ _ => rfl
  obtain rfl : Command.power .start .dc = c := (hc _).1 .power
  obtain rfl : [0x70, 0x01] = p := Except.ok.inj hserves.encoded
  obtain rfl : [0x80, 0x02, 0x70, 0x01] = frame :=
    Except.ok.inj ((by decide : Frame.encode [0x70, 0x01] = _).symm.trans hserves.framed)
  have hlast : IsLastAnswer [[0xFF, 0x72, 0x0A], [0xEE, 0x41], [0x70, 0x02], [0x70, 0x0A]]
      [0x70, 0x0A] :=
    ⟨[[0xFF, 0x72, 0x0A], [0xEE, 0x41], [0x70, 0x02]], [], rfl, by decide, nofun⟩
  have harrived : Connection.completed (chatty.hear [0x80, 0x02, 0x70, 0x01]).1 =
      [[0xFF, 0x72, 0x0A], [0xEE, 0x41], [0x70, 0x02], [0x70, 0x0A]] := by decide +kernel
  refine ⟨hright, hserves.answers.accepted.2 ⟨_, harrived ▸ hlast, by decide⟩, ?_⟩
  have hheard := congrArg (Option.map Node.heard) hserves.written
  rwa [Option.map_map, Option.map_some, hserves.heard rfl] at hheard

end Request

end Cli

end ControlNode
