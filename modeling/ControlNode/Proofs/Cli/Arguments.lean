import ControlNode.Proofs.Cli.Desk

/-!
# Right and wrong arguments

A request for a device is planned by checks that run one after the other. Each check passes exactly
if its arguments are right, and otherwise fails with a usage error (`Checked`); so does the whole
plan, whichever and however many arguments are wrong (`Request.checked_plan`). Only then the line to
the device is opened, with the baud rate and the timeout that were asked for, and nothing that fails
from there on is a usage error (`Request.run_checked`).
-/

namespace ControlNode.Cli

/-! ### What the arguments mean -/

/-- Whether a text is a duration. -/
def IsDuration (s : String) : Prop := ∃ d, duration s = .ok d

/-- The target that the arguments for a device describe. -/
structure DeviceChoice.Means (device : DeviceChoice) (target : Target) : Prop where
  path : target.path = device.tty
  baud : target.baud = device.baud
  timeout : duration device.timeout = .ok target.timeout

namespace MeasureChoice

/-- Whether the measuring circuit has the period and the averaging that are asked for. -/
structure IsSupported (m : MeasureChoice) : Prop where
  period : m.period ∈ [140, 204, 332, 588, 1100, 2116, 4156, 8244]
  average : m.average ∈ [1, 4, 16, 64, 128, 256, 512, 1024]

/-- What consumption measures are asked for: none if no quantity is. -/
inductive Means (m : MeasureChoice) : Option ConsumptionSetup → Prop
  | nothing (h : m.power = false ∧ m.voltage = false ∧ m.current = false) : Means m none
  | quantities {period : Period} {averaging : Averaging}
      (h : m.power = true ∨ m.voltage = true ∨ m.current = true)
      (hperiod : period.micros = m.period) (haverage : averaging.count = m.average) :
      Means m (some {
        rail := m.rail, power := m.power, voltage := m.voltage, current := m.current, period,
        averaging })

end MeasureChoice

/-- Whether radio measures can have the period that is asked for, if one is. -/
def IsRadioChoice (period : Option UInt16) : Prop :=
  ∀ ms ∈ period, 2 ≤ ms.toNat ∧ ms.toNat ≤ 499

/-- When a watch ends that is asked for with a duration or without. -/
inductive EndsAt (now : Duration) : Option String → Option Duration → Prop
  | never : EndsAt now none none
  | after {text : String} {d : Duration} (h : duration text = .ok d) :
      EndsAt now (some text) (some ⟨now.nanoseconds + d.nanoseconds⟩)

namespace Request

/-- The arguments for the device, if a request is for one. -/
def device? : Request → Option DeviceChoice
  | .power _ device _ => some device
  | .resetTime device => some device
  | .consumption device _ _ => some device
  | .radio device _ _ => some device
  | .monitor device _ _ _ _ => some device
  | .devices => none
  | .version _ => none

/-- Whether all arguments of a request are right. What is switched off needs no right arguments. -/
def IsAdmissible : Request → Prop
  | .power _ device _ => IsDuration device.timeout
  | .resetTime device => IsDuration device.timeout
  | .consumption device measures disable =>
    (disable = false → measures.IsSupported) ∧ IsDuration device.timeout
  | .radio device period stop => (stop = false → IsRadioChoice period) ∧ IsDuration device.timeout
  | .monitor device measures period _ duration =>
    measures.IsSupported ∧ IsRadioChoice period ∧ (∀ text ∈ duration, IsDuration text) ∧
      IsDuration device.timeout
  | .devices => True
  | .version _ => True

/-- Whether a request is for a watch. -/
def IsWatch : Request → Prop
  | .monitor _ _ _ _ _ => True
  | _ => False

/-- Whether interrupts can be noted if a request needs that. -/
def IsHandled (r : Request) (handler : Except String Unit) : Prop := r.IsWatch → handler = .ok ()

/-- Whether the clock can hold the reading at which a watch ends. -/
def FitsClock (now : Duration) : Request → Prop
  | .monitor _ _ _ _ duration? => ∀ text ∈ duration?, ∀ d, duration text = .ok d →
      (⟨now.nanoseconds + d.nanoseconds⟩ : Duration).seconds < clockLimit
  | _ => True

/-- The command that a request stands for, if it is for one. -/
inductive Denotes : Request → Command → Prop
  | power {direction : Direction} {device : DeviceChoice} {supply : Supply} :
      Denotes (.power direction device supply) (.power direction supply)
  | resetTime {device : DeviceChoice} : Denotes (.resetTime device) .resetTime
  | consumption {device : DeviceChoice} {measures : MeasureChoice}
      {setup : Option ConsumptionSetup} (h : measures.Means setup) :
      Denotes (.consumption device measures false) (.consumption setup)
  | consumptionOff {device : DeviceChoice} {measures : MeasureChoice} :
      Denotes (.consumption device measures true) (.consumption none)
  | radio {device : DeviceChoice} {period : Option UInt16} (h : IsRadioChoice period) :
      Denotes (.radio device period false) (.radio period)
  | radioOff {device : DeviceChoice} {period : Option UInt16} :
      Denotes (.radio device period true) (.radio none)

end Request

/-- The name under which a command is reported. -/
def reportName : Command → String
  | .power .start _ => "start"
  | .power .stop _ => "stop"
  | .resetTime => "reset-time"
  | .consumption (some _) => "consumption"
  | .consumption none => "consumption-disable"
  | .radio (some _) => "radio"
  | .radio none => "radio-stop"

/-- The plan that a request for a target stands for. -/
inductive Request.Means (now : Duration) (target : Target) : Request → Plan → Prop
  | command {r : Request} {c : Command} (h : r.Denotes c) :
      Means now target r (.send target c (reportName c))
  | watch {device : DeviceChoice} {measures : MeasureChoice} {period : Option UInt16}
      {count : Option Nat} {duration : Option String} {w : Watch}
      (hmeasures : measures.Means w.consumption) (hperiod : IsRadioChoice period)
      (hradio : w.radio = period) (hcount : w.count = count)
      (hdeadline : EndsAt now duration w.deadline) :
      Means now target (.monitor device measures period count duration) (.watch target w)

/-! ### Checks -/

namespace Halt

variable {α : Type} {x : Except Failure α}

lemma lift_eq_ok_iff {a : α} : lift x = .ok a ↔ x = .ok a := by
  cases x <;> simp [lift, Except.mapError]

end Halt

/-- Whether a check passes exactly if something is right, with a result as it should be, and
otherwise fails with a usage error. -/
def Checked {α : Type} (right : Prop) (good : α → Prop) : Except Halt α → Prop
  | .ok a => right ∧ good a
  | .error halt => ¬ right ∧ ∃ f : Failure, halt = .failure f ∧ f.code = .usage

namespace Checked

variable {α β : Type} {right right' : Prop} {good : α → Prop} {good' : β → Prop}
  {x : Except Halt α}

lemma bind {f : α → Except Halt β} (hx : Checked right good x)
    (hf : ∀ a, good a → Checked right' good' (f a)) :
    Checked (right ∧ right') good' (x >>= f) := by
  cases x with
  | error e => exact ⟨fun h => hx.1 h.1, hx.2⟩
  | ok a =>
    have hrest := hf a hx.2
    show Checked _ _ (f a)
    cases hfa : f a with
    | error e =>
      rw [hfa] at hrest
      exact ⟨fun h => hrest.1 h.2, hrest.2⟩
    | ok b =>
      rw [hfa] at hrest
      exact ⟨⟨hx.1, hrest.1⟩, hrest.2⟩

lemma map {f : α → β} (hx : Checked right good x) (hf : ∀ a, good a → good' (f a)) :
    Checked right good' (f <$> x) := by
  cases x with
  | error e => exact hx
  | ok a => exact ⟨hx.1, hf a hx.2⟩

/-- If what follows a check fails in any case, all of it fails. -/
lemma bind_error {f : α → Except Halt β} {told : Halt} (hx : Checked right good x)
    (hf : ∀ a, ∃ halt, f a = .error halt ∧ (right' → halt = told)) :
    ∃ halt, x >>= f = .error halt ∧ (right ∧ right' → halt = told) := by
  cases x with
  | error e => exact ⟨e, rfl, fun h => absurd h.1 hx.1⟩
  | ok a =>
    obtain ⟨halt, hfa, htold⟩ := hf a
    exact ⟨halt, hfa, fun h => htold h.2⟩

lemma congr (hx : Checked right good x) (hright : right ↔ right') : Checked right' good x := by
  cases x with
  | error e => exact ⟨hright.not.1 hx.1, hx.2⟩
  | ok a => exact ⟨hright.1 hx.1, hx.2⟩

lemma right_of_ok {a : α} (hx : Checked right good x) (h : x = .ok a) : right := by
  subst h
  exact hx.1

lemma exists_ok (hx : Checked right good x) (h : right) : ∃ a, x = .ok a := by
  cases x with
  | error f => exact absurd h hx.1
  | ok a => exact ⟨a, rfl⟩

end Checked

lemma checked_readDuration (s : String) :
    Checked (IsDuration s) (fun d => duration s = .ok d) (Halt.lift (readDuration s)) := by
  rw [readDuration, IsDuration]
  cases h : duration s with
  | error e => exact ⟨by rintro ⟨d, ⟨⟩⟩, _, rfl, rfl⟩
  | ok d => exact ⟨⟨d, rfl⟩, rfl⟩

lemma checked_target (device : DeviceChoice) :
    Checked (IsDuration device.timeout) device.Means (Halt.lift device.target) := by
  have hread := checked_readDuration device.timeout
  rw [DeviceChoice.target]
  cases h : readDuration device.timeout with
  | error f =>
    rw [h] at hread
    exact hread
  | ok d =>
    rw [h] at hread
    exact ⟨hread.1, rfl, rfl, hread.2⟩

/-- Looking a number up in a table finds an entry with this number, if there is one. -/
lemma find?_entry {α : Type} (entry : Fin 8 → α) (number : α → Nat) {table : List Nat}
    (htable : (List.finRange 8).map (fun i => number (entry i)) = table) (n : Nat) :
    let found := ((List.finRange 8).find? fun i => number (entry i) == n).map entry
    (found = none → n ∉ table) ∧ ∀ a, found = some a → n ∈ table ∧ number a = n := by
  subst htable
  constructor
  · intro hnone hmem
    obtain ⟨i, hi, hn⟩ := List.mem_map.1 hmem
    exact List.find?_eq_none.1 (Option.map_eq_none_iff.1 hnone) i hi (beq_iff_eq.2 hn)
  · intro a hsome
    obtain ⟨i, hi, rfl⟩ := Option.map_eq_some_iff.1 hsome
    have hn : number (entry i) = n := by simpa using List.find?_some hi
    exact ⟨List.mem_map.2 ⟨i, List.mem_finRange i, hn⟩, hn⟩

lemma checked_setup (m : MeasureChoice) :
    Checked m.IsSupported m.Means (Halt.lift m.setup) := by
  obtain ⟨hnoPeriod, hperiod⟩ := find?_entry Period.mk Period.micros rfl m.period
  obtain ⟨hnoAverage, haverage⟩ := find?_entry Averaging.mk Averaging.count rfl m.average
  rw [MeasureChoice.setup]
  cases hp : Period.ofMicros? m.period with
  | none => exact ⟨fun h => hnoPeriod hp h.period, _, rfl, rfl⟩
  | some period =>
    cases ha : Averaging.ofCount? m.average with
    | none => exact ⟨fun h => hnoAverage ha h.average, _, rfl, rfl⟩
    | some averaging =>
      obtain ⟨hp, hperiod⟩ := hperiod period hp
      obtain ⟨ha, haverage⟩ := haverage averaging ha
      refine ⟨⟨hp, ha⟩, ?_⟩
      split
      · next henabled =>
        refine .quantities ?_ hperiod haverage
        simpa [ConsumptionSetup.isEnabled, or_assoc] using henabled
      · next henabled =>
        refine .nothing ?_
        simpa [ConsumptionSetup.isEnabled, and_assoc] using henabled

lemma checked_radioPeriod (period : Option UInt16) :
    Checked (IsRadioChoice period) (fun chosen => chosen = period ∧ IsRadioChoice period)
      (Halt.lift (radioPeriod period)) := by
  cases period with
  | none => exact ⟨nofun, rfl, nofun⟩
  | some ms =>
    have hchoice : IsRadioChoice (some ms) ↔ Command.isRadioPeriod ms = true := by
      rw [Command.isRadioPeriod_iff]
      exact ⟨fun h => h ms rfl, fun h ms' hms => Option.some.inj hms ▸ h⟩
    rw [radioPeriod]
    split
    · next h => exact ⟨hchoice.2 h, rfl, hchoice.2 h⟩
    · next h => exact ⟨hchoice.not.2 h, _, rfl, rfl⟩

lemma checked_watchEnd {now : Duration} {duration? : Option String}
    (hclock : ∀ text ∈ duration?, ∀ d, duration text = .ok d →
      (⟨now.nanoseconds + d.nanoseconds⟩ : Duration).seconds < clockLimit) :
    Checked (∀ text ∈ duration?, IsDuration text) (EndsAt now duration?)
      (watchEnd now duration?) := by
  cases duration? with
  | none => exact ⟨nofun, .never⟩
  | some text =>
    have hend : Checked (IsDuration text ∧ True) (EndsAt now (some text))
        (watchEnd now (some text)) := by
      refine (checked_readDuration text).bind fun d hd => ?_
      rw [deadline, if_pos (hclock text rfl d hd)]
      exact ⟨trivial, .after hd⟩
    exact hend.congr (by simp)

namespace Request

variable {r : Request} {now : Duration} {handler : Except String Unit} {device : DeviceChoice}

/-- The plan to send the command that a request stands for. -/
lemma checked_send {c : Command} {name : String} (h : r.Denotes c) (hname : name = reportName c) :
    Checked (IsDuration device.timeout)
      (fun p => ∃ target, device.Means target ∧ Means now target r p)
      (do return .send (← device.target) c name) := by
  subst hname
  exact (checked_target device).map fun target htarget => ⟨target, htarget, .command h⟩

/-- A request for a device has a plan exactly if all its arguments are right. -/
theorem checked_plan (hdevice : r.device? = some device) (hclock : r.FitsClock now)
    (hhandled : r.IsHandled handler) :
    Checked r.IsAdmissible (fun p => ∃ target, device.Means target ∧ Means now target r p)
      (r.plan now handler) := by
  cases r with
  | power direction device' supply =>
    obtain rfl := Option.some.inj hdevice
    cases direction <;> exact checked_send .power rfl
  | resetTime device' =>
    obtain rfl := Option.some.inj hdevice
    exact checked_send .resetTime rfl
  | consumption device' measures disable =>
    obtain rfl := Option.some.inj hdevice
    cases disable with
    | true => exact (checked_send .consumptionOff rfl).congr (by simp [IsAdmissible])
    | false =>
      have hright : measures.IsSupported ∧ IsDuration device'.timeout ↔
          (consumption device' measures false).IsAdmissible := by simp [IsAdmissible]
      refine ((checked_setup measures).bind fun setup hsetup => ?_).congr hright
      cases setup <;> exact checked_send (.consumption hsetup) rfl
  | radio device' period stop =>
    obtain rfl := Option.some.inj hdevice
    cases stop with
    | true => exact (checked_send .radioOff rfl).congr (by simp [IsAdmissible])
    | false =>
      have hright : IsRadioChoice period ∧ IsDuration device'.timeout ↔
          (radio device' period false).IsAdmissible := by simp [IsAdmissible]
      refine ((checked_radioPeriod period).bind fun chosen hchosen => ?_).congr hright
      obtain ⟨rfl, hchosen⟩ := hchosen
      cases chosen <;> exact checked_send (.radio hchosen) rfl
  | monitor device' measures period count duration? =>
    obtain rfl := Option.some.inj hdevice
    obtain rfl : handler = .ok () := hhandled trivial
    exact (checked_setup measures).bind fun setup hsetup =>
      (checked_radioPeriod period).bind fun chosen hchosen =>
        (checked_watchEnd hclock).bind fun deadline hdeadline =>
          (checked_target device').map fun target htarget =>
            ⟨target, htarget, .watch hsetup hchosen.2 hchosen.1 rfl hdeadline⟩
  | devices => cases hdevice
  | version extended => cases hdevice

/-- A watch that cannot note interrupts has no plan. If its arguments are right, nothing else is
told. -/
lemma plan_of_unhandled (text : String) (hwatch : r.IsWatch) (hclock : r.FitsClock now) :
    ∃ halt, r.plan now (.error text) = .error halt ∧
      (r.IsAdmissible → halt = .failure (.ofHandlerError text)) := by
  cases r with
  | monitor device' measures period count duration? =>
    exact (checked_setup measures).bind_error fun setup =>
      (checked_radioPeriod period).bind_error fun chosen =>
        (checked_watchEnd hclock).bind_error fun deadline => ⟨_, rfl, fun _ => rfl⟩
  | _ => cases hwatch

end Request

/-! ### Failures once the device is opened -/

lemma Code.number_injective : Function.Injective Code.number := by
  intro code code' h
  cases code <;> cases code' <;> first | rfl | cases h

namespace Failure

lemma codeOfFault_ne_usage (kind : Line.Fault.Kind) : codeOfFault kind ≠ .usage := by
  cases kind <;> decide

/-- However a device fails to open, this is not wrong usage. -/
lemma code_refusal_ne_usage (target : Target) (e : ConnectionError) :
    (target.refusal e).code ≠ .usage := by
  cases e with
  | serial e =>
    cases e with
    | fault f => exact codeOfFault_ne_usage f.kind
    | _ => exact nofun
  | frame e =>
    cases e with
    | fault f => exact codeOfFault_ne_usage f.kind
    | _ => exact nofun
  | spawn f => exact nofun

/-- No answer makes the argument of a command invalid. -/
lemma code_ne_usage_of_judge {tag : UInt8} {answer : Option Packet} {e : CommandError}
    (h : Command.judge tag answer = .error e) : codeOfCommandError e ≠ .usage := by
  rw [Command.judge.eq_def] at h
  split at h
  · cases h
    exact nofun
  · split at h
    · split_ifs at h
      all_goals
        cases h
        exact nofun
    · cases h
      exact nofun

end Failure

namespace Host

variable {host : Host} {target : Target}

lemma open_of_ok {n : Node} (h : host.line target = .ok n) :
    host.open target = .ok { timeout := target.timeout, node := n } := by
  rw [Host.open, connect, h]
  rfl

lemma open_of_error {e : ConnectionError} (h : host.line target = .error e) :
    host.open target = .error (target.refusal e) := by
  rw [Host.open, connect, h]
  rfl

end Host

lemma IsRadioChoice.exists_packet {period : Option UInt16} (h : IsRadioChoice period) :
    ∃ p, (Command.radio period).encode = .ok p := by
  cases hp : (Command.radio period).encode with
  | ok p => exact ⟨p, rfl⟩
  | error e =>
    obtain ⟨ms, hms, hrange, -⟩ := Command.encode_eq_error_iff.1 hp
    exact absurd (h ms (Command.radio.inj hms)) hrange

lemma exists_packet_consumption (setup : Option ConsumptionSetup) :
    ∃ p, (Command.consumption setup).encode = .ok p := by
  cases hp : (Command.consumption setup).encode with
  | ok p => exact ⟨p, rfl⟩
  | error e =>
    obtain ⟨ms, hms, -⟩ := Command.encode_eq_error_iff.1 hp
    cases hms

/-- What becomes of the line to a target in a run that opens it. -/
structure Outcome.Opens (o : Outcome) (host : Host) (target : Target) : Prop where
  attempt : o.target = some target
  refused (e : ConnectionError) : host.line target = .error e →
    o = { result := .error (.failure (target.refusal e)), target }
  opened (n : Node) : host.line target = .ok n →
    ∃ c, o.connection = some c ∧ c.timeout = target.timeout
  code : o.code ≠ some 64

namespace Outcome

variable {o : Outcome}

lemma code_ne_64_of_failure {f : Failure} (h : o.result = .error (.failure f))
    (hf : f.code ≠ .usage) : o.code ≠ some 64 := by
  rw [code, h]
  exact fun hcode => hf (Code.number_injective (Option.some.inj hcode))

lemma code_ne_64_of_ok (h : o.result = .ok ()) : o.code ≠ some 64 := by
  rw [code, h]
  exact nofun

lemma opens_of_refused {host : Host} {target : Target} {e : ConnectionError}
    (h : host.line target = .error e) :
    Opens { result := .error (.failure (target.refusal e)), target } host target where
  attempt := rfl
  refused e' h' := by
    obtain rfl := Except.error.inj (h.symm.trans h')
    rfl
  opened _ h' := nomatch h.symm.trans h'
  code := code_ne_64_of_failure rfl (Failure.code_refusal_ne_usage target e)

lemma opens_of_opened {host : Host} {target : Target} {n : Node} {c : Connection}
    (h : host.line target = .ok n) (hattempt : o.target = some target)
    (hconnection : o.connection = some c) (htimeout : c.timeout = target.timeout)
    (hcode : o.code ≠ some 64) : o.Opens host target where
  attempt := hattempt
  refused _ h' := nomatch h.symm.trans h'
  opened _ _ := ⟨c, hconnection, htimeout⟩
  code := hcode

end Outcome

section

variable (form : Report.Form) {host : Host} {target : Target} {n : Node}

lemma opens_sendOne (h : host.line target = .ok n) (name : String) {c : Command}
    (hc : ∃ p, c.encode = .ok p) {s : Session Connection}
    (hs : s.carrier.timeout = target.timeout) :
    (sendOne form target name c s).value.Opens host target := by
  obtain ⟨p, hp⟩ := hc
  refine Outcome.opens_of_opened h rfl rfl ?_ ?_
  · show (s.perform c).value.2.carrier.timeout = target.timeout
    rw [Session.carrier_perform hp]
    exact (s.carrier.timeout_exchange p).trans hs
  · have hjudge := Session.result_perform (s := s) hp
    rw [sendOne, Logged.value_bind]
    match hperform : (s.perform c).value with
    | (.ok (), s') => exact Outcome.code_ne_64_of_ok rfl
    | (.error e, s') =>
      rw [hperform] at hjudge
      exact Outcome.code_ne_64_of_failure rfl (Failure.code_ne_usage_of_judge hjudge.symm)

lemma opens_watch (h : host.line target = .ok n) (moments : List Moment) {w : Watch}
    (hcommands : ∀ c ∈ w.setup, ∃ p, c.encode = .ok p) {d : Desk}
    (hd : d.session.carrier.timeout = target.timeout) :
    (w.run form target moments d).value.Opens host target := by
  have hperform (d : Desk) (c : Command) (h : d.session.carrier.timeout = target.timeout) :
      (d.perform c).value.2.session.carrier.timeout = target.timeout :=
    (d.timeout_perform c).trans h
  have hsetup := keeps_sendAll hperform hd w.setup
  rw [Watch.run, Logged.value_bind, Watch.conduct, Logged.value_bind]
  match hsend : (sendAll Desk.perform d w.setup).value with
  | (.error e, d') =>
    rw [hsend] at hsetup
    obtain ⟨d'', c, hc, hresult⟩ := exists_of_sendAll_eq_error hsend
    obtain ⟨p, hp⟩ := hcommands c hc
    rw [Desk.result_perform hp] at hresult
    exact Outcome.opens_of_opened h rfl rfl hsetup
      (Outcome.code_ne_64_of_failure rfl (Failure.code_ne_usage_of_judge hresult))
  | (.ok (), d') =>
    rw [hsend] at hsetup
    have hreport : (w.report {} d' moments).value.2.session.carrier.timeout = target.timeout :=
      Watch.keeps_report (P := fun d => d.session.carrier.timeout = target.timeout)
        (fun d m _ h => (d.timeout_meet m).trans h) hsetup {}
    exact Outcome.opens_of_opened h rfl rfl (keeps_sendEach hperform hreport w.cleanup)
      (Outcome.code_ne_64_of_ok rfl)

end

lemma Watch.exists_packet_setup (w : Watch) (h : IsRadioChoice w.radio) :
    ∀ c ∈ w.setup, ∃ p, c.encode = .ok p := by
  intro c hc
  rcases List.mem_append.1 hc with hc | hc
  · simp only [List.mem_cons, List.not_mem_nil, or_false] at hc
    rcases hc with rfl | rfl
    · exact ⟨_, rfl⟩
    · exact exists_packet_consumption w.consumption
  · obtain ⟨ms, hms, rfl⟩ := Option.map_eq_some_iff.1 (Option.mem_toList.1 hc)
    rw [← hms]
    exact h.exists_packet

namespace Request

/-- The command that a request stands for has a packet. -/
lemma Denotes.exists_packet {r : Request} {c : Command} (h : r.Denotes c) :
    ∃ p, c.encode = .ok p := by
  cases h with
  | power => exact ⟨_, rfl⟩
  | resetTime => exact ⟨_, rfl⟩
  | consumption => exact exists_packet_consumption _
  | consumptionOff => exact exists_packet_consumption none
  | radio h => exact h.exists_packet
  | radioOff => exact ⟨_, rfl⟩

/-- A plan opens its target, and once it is open the arguments are not at fault. -/
lemma Means.opens {now : Duration} {target : Target} {r : Request} {p : Plan}
    (h : Means now target r p) (form : Report.Form) (time : Float) (host : Host) :
    (p.run form time host).value.Opens host target := by
  cases hline : host.line target with
  | error e =>
    have hopen := Host.open_of_error hline
    cases h with
    | command =>
      simp only [Plan.run, hopen]
      exact Outcome.opens_of_refused hline
    | watch =>
      simp only [Plan.run, hopen]
      exact Outcome.opens_of_refused hline
  | ok n =>
    have hopen := Host.open_of_ok hline
    cases h with
    | command h =>
      simp only [Plan.run, hopen]
      exact opens_sendOne form hline _ h.exists_packet rfl
    | @watch device measures period count duration w hmeasures hperiod hradio =>
      subst hradio
      cases hworker : host.worker with
      | error text =>
        simp only [Plan.run, hopen, hworker]
        exact Outcome.opens_of_opened hline rfl rfl rfl (Outcome.code_ne_64_of_failure rfl nofun)
      | ok u =>
        simp only [Plan.run, hopen, hworker]
        exact opens_watch form hline host.moments (w.exists_packet_setup hperiod) rfl

/-- Whether arguments are checked before the device is touched. -/
structure ChecksFirst (r : Request) (device : DeviceChoice) (now : Duration) : Prop where
  /-- If an argument is wrong, the run is a usage error, and the same on every host. -/
  wrong : ¬ r.IsAdmissible → ∃ o : Outcome,
    o.code = some 64 ∧ o.target = none ∧ o.printed = "" ∧ o.connection = none ∧
    ∀ form time (host : Host), r.IsHandled host.handler → r.run form now time host = pure o
  /-- If none is, the line is opened with the settings that were asked for, and what fails from
  there on is no usage error. -/
  right : r.IsAdmissible → ∃ target, device.Means target ∧
    ∀ form time (host : Host), r.IsHandled host.handler →
      (r.run form now time host).value.Opens host target
  /-- A watch that cannot note interrupts does not touch the device either. -/
  unhandled (text : String) : r.IsWatch → ∃ halt,
    (r.IsAdmissible → halt = .failure (.ofHandlerError text)) ∧
    ∀ form time (host : Host), host.handler = .error text →
      r.run form now time host = pure { result := .error halt }

/-- Arguments are checked before the device is touched, whichever and however many are wrong. -/
theorem run_checked (r : Request) (device : DeviceChoice) (now : Duration)
    (hdevice : r.device? = some device) (hclock : r.FitsClock now) : r.ChecksFirst device now := by
  have hplan {handler : Except String Unit} (hhandled : r.IsHandled handler) :
      r.plan now handler = r.plan now (.ok ()) := by
    cases r with
    | monitor => rw [hhandled trivial]
    | _ => rfl
  have hchecked := checked_plan hdevice hclock (fun _ => rfl : r.IsHandled (.ok ()))
  constructor
  case wrong =>
    intro hwrong
    cases hr : r.plan now (.ok ()) with
    | ok p =>
      rw [hr] at hchecked
      exact absurd hchecked.1 hwrong
    | error halt =>
      rw [hr] at hchecked
      obtain ⟨-, f, rfl, hcode⟩ := hchecked
      refine ⟨{ result := .error (.failure f) }, ?_, rfl, rfl, rfl, ?_⟩
      · simp only [Outcome.code, hcode, Code.number]
      · intro form time host hhandled
        rw [run, hplan hhandled, hr]
  case right =>
    intro hright
    cases hr : r.plan now (.ok ()) with
    | error halt =>
      rw [hr] at hchecked
      exact absurd hright hchecked.1
    | ok p =>
      rw [hr] at hchecked
      obtain ⟨-, target, htarget, hmeans⟩ := hchecked
      refine ⟨target, htarget, fun form time host hhandled => ?_⟩
      rw [run, hplan hhandled, hr]
      exact hmeans.opens form time host
  case unhandled =>
    intro text hwatch
    obtain ⟨halt, hhalt, htold⟩ := plan_of_unhandled text hwatch hclock
    refine ⟨halt, htold, fun form time host hhandler => ?_⟩
    rw [run, hhandler, hhalt]

/-- A watch whose timeout, period of the circuit and period of radio measures are all wrong. -/
def allWrong : Request :=
  .monitor { tty := "p", baud := 921600, timeout := "0s" }
    { rail := .v5, power := false, voltage := true, current := false, period := 141, average := 16 }
    (some 500) none (some "10s")

theorem run_checked_allWrong :
    allWrong.FitsClock ⟨0⟩ ∧ ¬ allWrong.IsAdmissible ∧ ∃ o : Outcome,
      o.code = some 64 ∧ o.target = none ∧ o.printed = "" ∧ o.connection = none ∧
      ∀ form time (host : Host), allWrong.IsHandled host.handler →
        allWrong.run form ⟨0⟩ time host = pure o := by
  have hclock : allWrong.FitsClock ⟨0⟩ := by
    have hread : duration "10s" = .ok (.ofSeconds 10) := by decide +kernel
    rintro text ⟨⟩ d hd
    obtain rfl := Except.ok.inj (hread.symm.trans hd)
    decide
  have hwrong : ¬ allWrong.IsAdmissible := fun h =>
    absurd h.1.period (by decide : 141 ∉ [140, 204, 332, 588, 1100, 2116, 4156, 8244])
  exact ⟨hclock, hwrong, (allWrong.run_checked _ ⟨0⟩ rfl hclock).wrong hwrong⟩

end Request

end ControlNode.Cli
