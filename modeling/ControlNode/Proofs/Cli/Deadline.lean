import ControlNode.Proofs.Cli.DurationText
import ControlNode.Proofs.Cli.Watch

/-!
# Deadlines

A watch with a duration ends when the clock shows the time of its start with the duration added.
The clock holds less than 2 to the 63 seconds, but durations of up to twice as much are accepted. A
duration that overruns the clock (`Cli.Overruns`) makes the run panic, and nothing else does
(`Cli.Request.monitor_panics_iff`).
-/

namespace ControlNode.Cli

/-! ### The range of the clock -/

namespace DurationUnit

def perSecond : DurationUnit → Nat
  | .seconds => 1
  | .milliseconds => 1000

/-- The whole units in a span of time. -/
def wholeIn (unit : DurationUnit) (d : Duration) : Nat :=
  d.nanoseconds * unit.perSecond / 1000000000

/-- A limit in whole seconds can be looked for in whole units, for added units leave the rest of a
unit as it is. -/
lemma le_seconds_add_times_iff {limit n : Nat} {now : Duration} {unit : DurationUnit} :
    limit ≤ (⟨now.nanoseconds + (unit.times n).nanoseconds⟩ : Duration).seconds ↔
      limit * unit.perSecond ≤ unit.wholeIn now + n := by
  cases unit with
  | seconds =>
    simp only [times, Duration.ofSeconds, Duration.seconds, perSecond, wholeIn]
    omega
  | milliseconds =>
    simp only [times, Duration.ofMilliseconds, Duration.seconds, perSecond, wholeIn]
    omega

end DurationUnit

/-- Whether a text is accepted as a duration although the clock, which shows `now`, cannot hold its
end. -/
def Overruns (now : Duration) (text : String) : Prop :=
  ∃ d, readDuration text = .ok d ∧ ∀ reading, deadline now d ≠ .ok reading

/-- What the duration of a watch comes to: the end of the watch, or the reason that it has none. -/
inductive WatchEnd (now : Duration) : Option String → Except Halt (Option Duration) → Prop
  | never : WatchEnd now none (.ok none)
  | reached {text : String} {d : Duration} (h : readDuration text = .ok d)
      (hclock : ¬ Overruns now text) :
      WatchEnd now (some text) (.ok (some ⟨now.nanoseconds + d.nanoseconds⟩))
  | overrun {text : String} (h : Overruns now text) :
      WatchEnd now (some text) (.error (.panic overflowText))
  | misread {text : String} {f : Failure} (h : readDuration text = .error f) :
      WatchEnd now (some text) (.error (.failure f))

section

variable {now d : Duration} {text : String}

lemma deadline_ne_ok_iff :
    (∀ reading, deadline now d ≠ .ok reading) ↔
      clockLimit ≤ (⟨now.nanoseconds + d.nanoseconds⟩ : Duration).seconds := by
  rw [deadline]
  split
  · next h => simp [Nat.not_le.2 h]
  · next h => simp [Nat.not_lt.1 h]

/-- The durations that overrun the clock, as they are written. -/
lemma overruns_iff :
    Overruns now text ↔ ∃ body n unit, Text.IsBody text.toList body ∧ Amount body n unit ∧
      0 < n ∧ n < 2 ^ 64 ∧ 2 ^ 63 * unit.perSecond ≤ unit.wholeIn now + n := by
  simp only [Overruns, deadline_ne_ok_iff, readDuration_eq_iff]
  constructor
  · rintro ⟨d, hverdict, hlimit⟩
    cases hverdict with
    | @accepted n unit h hpos hn =>
      refine ⟨_, n, unit, Text.isBody_trim _, h, hpos, hn, ?_⟩
      exact DurationUnit.le_seconds_add_times_iff.1 hlimit
  · rintro ⟨body, n, unit, hbody, h, hpos, hn, hlimit⟩
    obtain rfl := hbody.eq
    exact ⟨_, .accepted h hpos hn, DurationUnit.le_seconds_add_times_iff.2 hlimit⟩

lemma watchEnd_cases (now : Duration) (duration : Option String) :
    WatchEnd now duration (watchEnd now duration) := by
  cases duration with
  | none => exact .never
  | some text =>
    rw [watchEnd]
    cases hread : readDuration text with
    | error f => exact .misread hread
    | ok d =>
      have hoverruns : Overruns now text ↔ ∀ reading, deadline now d ≠ .ok reading := by
        simp [Overruns, hread]
      rw [deadline_ne_ok_iff] at hoverruns
      show WatchEnd now (some text) (some <$> deadline now d)
      rw [deadline]
      split
      · next h => exact .reached hread (hoverruns.not.2 (Nat.not_le.2 h))
      · next h => exact .overrun (hoverruns.2 (Nat.not_lt.1 h))

end

/-! ### Runs that panic -/

lemma Halt.lift_ne_panic {α : Type} (x : Except Failure α) (message : String) :
    lift x ≠ .error (.panic message) := by
  cases x <;> exact nofun

/-- A watch fails only as its set-up does. -/
lemma Watch.result_run_ne_panic (form : Report.Form) (target : Target) (w : Watch)
    (moments : List Moment) (d : Desk) (message : String) :
    (w.run form target moments d).value.result ≠ .error (.panic message) := by
  have hcourse := w.course_run form target moments d
  generalize w.transcript moments d = t at hcourse
  intro h
  rw [h] at hcourse
  cases hcourse

/-- Once all arguments are checked, the run does not panic. -/
lemma Plan.result_run_ne_panic (form : Report.Form) (time : Float) (host : Host) (p : Plan)
    (message : String) : (p.run form time host).value.result ≠ .error (.panic message) := by
  cases p with
  | print text => rintro ⟨⟩
  | listDevices =>
    rw [run]
    cases host.devices <;> rintro ⟨⟩
  | send target command name =>
    rw [run]
    cases host.open target with
    | error f => rintro ⟨⟩
    | ok c => exact Halt.lift_ne_panic _ message
  | watch target w =>
    rw [run]
    cases host.open target with
    | error f => rintro ⟨⟩
    | ok c =>
      cases host.worker with
      | error text => rintro ⟨⟩
      | ok u => exact w.result_run_ne_panic form target host.moments _ message

namespace Request

variable {device : DeviceChoice} {measures : MeasureChoice} {period : Option UInt16}
  {count : Option Nat} {duration : Option String} {now : Duration} {handler : Except String Unit}

/-- A run that panics has no plan. -/
lemma plan_of_panic {r : Request} {form : Report.Form} {time : Float} {host : Host}
    {message : String}
    (h : (r.run form now time host).value.result = .error (.panic message)) :
    r.plan now host.handler = .error (.panic message) := by
  rw [run] at h
  cases hplan : r.plan now host.handler with
  | error halt =>
    rw [hplan] at h
    exact congrArg Except.error (Except.error.inj h)
  | ok p =>
    rw [hplan] at h
    exact absurd h (p.result_run_ne_panic form time host message)

/-- A monitor request panics only over its clock. -/
lemma plan_monitor_of_panic {message : String}
    (h : (monitor device measures period count duration).plan now handler =
      .error (.panic message)) :
    (measures.IsSupported ∧ IsRadioChoice period ∧ ∃ text ∈ duration, Overruns now text) ∧
      message = overflowText := by
  rw [plan] at h
  obtain hsetup | ⟨setup, hsetup, h⟩ := exists_of_bind_eq_error h
  · exact absurd hsetup (Halt.lift_ne_panic _ _)
  obtain hperiod | ⟨chosen, hperiod, h⟩ := exists_of_bind_eq_error h
  · exact absurd hperiod (Halt.lift_ne_panic _ _)
  obtain hend | ⟨reading, -, h⟩ := exists_of_bind_eq_error h
  · have hmeasures := (checked_setup measures).right_of_ok hsetup
    have hchoice := (checked_radioPeriod period).right_of_ok hperiod
    have hcases := watchEnd_cases now duration
    rw [hend] at hcases
    cases hcases with
    | overrun hoverruns => exact ⟨⟨hmeasures, hchoice, _, rfl, hoverruns⟩, rfl⟩
  obtain hhandled | ⟨-, -, h⟩ := exists_of_bind_eq_error h
  · exact absurd hhandled (Halt.lift_ne_panic _ _)
  obtain htarget | ⟨target, -, h⟩ := exists_of_bind_eq_error h
  · exact absurd htarget (Halt.lift_ne_panic _ _)
  · cases h

/-- The clock is looked at after the measures, and before the handler and the timeout. -/
lemma plan_monitor_of_overruns {text : String} (hmeasures : measures.IsSupported)
    (hperiod : IsRadioChoice period) (h : Overruns now text) :
    (monitor device measures period count (some text)).plan now handler =
      .error (.panic overflowText) := by
  obtain ⟨setup, hsetup⟩ := (checked_setup measures).exists_ok hmeasures
  obtain ⟨chosen, hchosen⟩ := (checked_radioPeriod period).exists_ok hperiod
  have hend : watchEnd now (some text) = .error (.panic overflowText) := by
    have hcases := watchEnd_cases now (some text)
    generalize watchEnd now (some text) = reading at hcases
    cases hcases with
    | reached hread hclock => exact absurd h hclock
    | overrun => rfl
    | misread hread =>
      obtain ⟨d, hd, -⟩ := h
      rw [hread] at hd
      cases hd
  rw [Halt.lift_eq_ok_iff] at hsetup hchosen
  rw [plan, hsetup, hchosen, hend]
  rfl

/-- A watch that is planned ends when its duration says. -/
lemma endsAt_of_plan_monitor {target : Target} {w : Watch}
    (h : (monitor device measures period count duration).plan now handler =
      .ok (.watch target w)) : EndsAt now duration w.deadline := by
  rw [plan] at h
  obtain ⟨setup, -, h⟩ := exists_of_bind_eq_ok h
  obtain ⟨chosen, -, h⟩ := exists_of_bind_eq_ok h
  obtain ⟨reading, hend, h⟩ := exists_of_bind_eq_ok h
  obtain ⟨-, -, h⟩ := exists_of_bind_eq_ok h
  obtain ⟨target', -, h⟩ := exists_of_bind_eq_ok h
  cases h
  have hcases := watchEnd_cases now duration
  rw [hend] at hcases
  cases hcases with
  | never => exact .never
  | reached hread hclock => exact .after (readDuration_eq_ok_iff.1 hread)

/-- What the duration of a monitor request leads to: `handler` and `o` are the handler and the run
of the request. -/
structure KeepsTime (r : Request) (now : Duration) (handler : Except String Unit)
    (measures : MeasureChoice) (period : Option UInt16) (duration : Option String)
    (o : Logged Outcome) : Prop where
  /-- The run panics exactly if the measures are right and the duration overruns the clock. -/
  panics : (∃ message, o.value.result = .error (.panic message)) ↔
    measures.IsSupported ∧ IsRadioChoice period ∧ ∃ text ∈ duration, Overruns now text
  /-- Then it is over before anything is done. -/
  early (message : String) : o.value.result = .error (.panic message) →
    o = pure { result := .error (.panic overflowText) }
  planned (target : Target) (w : Watch) : r.plan now handler = .ok (.watch target w) →
    EndsAt now duration w.deadline
  /-- A duration overruns the clock exactly if it is accepted and takes the clock, in the units in
  which it is written, to 2 to the 63 seconds or more. -/
  written (text : String) : Overruns now text ↔ ∃ body n unit, Text.IsBody text.toList body ∧
    Amount body n unit ∧ 0 < n ∧ n < 2 ^ 64 ∧ 2 ^ 63 * unit.perSecond ≤ unit.wholeIn now + n

/-- What the duration of a monitor request leads to, whatever its arguments are and whatever the
clock shows. -/
theorem monitor_panics_iff (form : Report.Form) (now : Duration) (time : Float) (host : Host)
    (device : DeviceChoice) (measures : MeasureChoice) (period : Option UInt16)
    (count : Option Nat) (duration : Option String) :
    let r := monitor device measures period count duration
    r.KeepsTime now host.handler measures period duration (r.run form now time host) := by
  intro r
  constructor
  case panics =>
    constructor
    · rintro ⟨message, h⟩
      exact (plan_monitor_of_panic (plan_of_panic h)).1
    · rintro ⟨hmeasures, hperiod, text, rfl, hoverruns⟩
      refine ⟨overflowText, ?_⟩
      rw [run, plan_monitor_of_overruns hmeasures hperiod hoverruns]
      rfl
  case early =>
    intro message h
    have hplan := plan_of_panic h
    obtain ⟨-, rfl⟩ := plan_monitor_of_panic hplan
    rw [run, hplan]
  case planned => exact fun target w => endsAt_of_plan_monitor
  case written => exact fun text => overruns_iff

/-- Asks for a watch that lasts longer than any clock runs. -/
def longestWatch : Request :=
  .monitor { tty := "ttyCN", baud := 500000, timeout := "1s" }
    { rail := .v3_3, power := false, voltage := false, current := false, period := 2116,
      average := 512 }
    none none (some "18446744073709551615s")

/-- A duration that is accepted and has no deadline, whatever the clock shows. -/
theorem longest_duration_panics :
    readDuration "18446744073709551615s" = .ok (.ofSeconds 18446744073709551615) ∧
    ∀ (form : Report.Form) (now : Duration) (time : Float) (host : Host),
      (∀ reading, deadline now (.ofSeconds 18446744073709551615) ≠ .ok reading) ∧
      longestWatch.run form now time host = pure { result := .error (.panic overflowText) } := by
  have hread : readDuration "18446744073709551615s" = .ok (.ofSeconds 18446744073709551615) := by
    decide +kernel
  refine ⟨hread, fun form now time host => ?_⟩
  have hdeadline : ∀ reading, deadline now (.ofSeconds 18446744073709551615) ≠ .ok reading := by
    rw [deadline_ne_ok_iff]
    show 9223372036854775808 ≤ (now.nanoseconds + 18446744073709551615 * 1000000000) / 1000000000
    omega
  have hplan : longestWatch.plan now host.handler = .error (.panic overflowText) :=
    plan_monitor_of_overruns ⟨by decide, by decide⟩ nofun ⟨_, hread, hdeadline⟩
  refine ⟨hdeadline, ?_⟩
  rw [run, hplan]

end Request

end ControlNode.Cli
