import ControlNode.Proofs.Cli.Watch

/-!
# How many records a watch reports

A watch with a limit is compared with the same watch without one, turn by turn: until the limit is
reached both do the same (`Watch.turn_limitedTo`), and then the one with the limit is over. So it
reports the first of the records that the other reports, whatever ends the other
(`Watch.follow_limitedTo`), and a run prints what its watch reports in the turns that it meets
(`Request.monitor_counts`). The limit is looked at only after a record, so a limit of no records
lets one through (`Request.prints_beyond_limit`).
-/

namespace ControlNode.Cli

namespace Watch

/-- The watch without a limit to the number of its records. -/
def unlimited (w : Watch) : Watch := { w with count := none }

/-- The watch with a limit to the number of its records. -/
def limitedTo (w : Watch) (n : Nat) : Watch := { w with count := some n }

@[simp] lemma isOver_unlimited (w : Watch) (reported : Nat) :
    w.unlimited.isOver reported = false := rfl

@[simp] lemma isOver_limitedTo (w : Watch) (n reported : Nat) :
    (w.limitedTo n).isOver reported = decide (n ≤ reported) := rfl

/-- The turn does not end a watch that waits for records. -/
structure Lasts (w : Watch) (t : Turn) : Prop where
  interrupted : t.interrupted = false
  clock : w.isOverdue t.clock = false
  connected : t.connected = true

variable {w : Watch} {s : Watching} {t : Turn} {n : Nat}

/-! ### One turn -/

lemma halted_eq_counted_iff : w.halted s t = some .counted ↔ s.ending = some .counted := by
  by_cases hended : s.ending.isSome = true
  · rw [halted_of_ended hended]
  · rw [Option.not_isSome_iff_eq_none.1 hended, halted, if_neg hended]
    split_ifs <;> simp

lemma ending_of_halted_eq_none (h : w.halted s t = none) : s.ending = none := by
  by_cases hended : s.ending.isSome = true
  · rwa [halted_of_ended hended] at h
  · exact Option.not_isSome_iff_eq_none.1 hended

lemma Lasts.halted (h : w.Lasts t) (hending : s.ending = none) : w.halted s t = none := by
  simp [Watch.halted, hending, h.interrupted, h.clock]

lemma parting_ne_counted (t : Turn) : t.parting ≠ some .counted := by
  rw [Turn.parting]
  split_ifs <;> nofun

lemma turn_of_nil (h : w.halted s t = none) (hwaiting : s.waiting ++ t.arriving = []) :
    w.turn s t =
      (none, { s with waiting := [], ending := if t.closed then some .closed else t.parting }) := by
  simp only [turn, h, hwaiting]

lemma turn_of_cons (h : w.halted s t = none) {r : Record} {later : List Record}
    (hwaiting : s.waiting ++ t.arriving = r :: later) :
    w.turn s t = (some r, {
      waiting := later
      reported := s.reported + 1
      ending := if w.isOver (s.reported + 1) then some .counted else t.parting }) := by
  simp only [turn, h, hwaiting]

/-- What comes of one turn. Only a record that is reported can be the last one. -/
inductive Turned (w : Watch) (s : Watching) (t : Turn) : Option Record × Watching → Prop
  | nothing (ending : Option Ending) (h : ending = some .counted ↔ s.ending = some .counted) :
      Turned w s t (none, { s with waiting := s.waiting ++ t.arriving, ending })
  | record (hending : s.ending = none) {r : Record} {later : List Record}
      (hwaiting : s.waiting ++ t.arriving = r :: later) :
      Turned w s t (some r, {
        waiting := later
        reported := s.reported + 1
        ending := if w.isOver (s.reported + 1) then some .counted else t.parting })

lemma turned_turn (w : Watch) (s : Watching) (t : Turn) : w.Turned s t (w.turn s t) := by
  cases h : w.halted s t with
  | some ending =>
    rw [turn_of_halted h]
    exact .nothing _ (by rw [← h, halted_eq_counted_iff])
  | none =>
    have hending := ending_of_halted_eq_none h
    cases hwaiting : s.waiting ++ t.arriving with
    | nil =>
      rw [turn_of_nil h hwaiting, ← hwaiting]
      refine .nothing _ (iff_of_false ?_ ?_)
      · have hparting := parting_ne_counted t
        split_ifs <;> simp_all
      · rw [hending]
        nofun
    | cons r later =>
      rw [turn_of_cons h hwaiting]
      exact .record hending hwaiting

/-- A turn loses no record and reports none twice. -/
lemma waiting_turn (w : Watch) (s : Watching) (t : Turn) :
    (w.turn s t).1.toList ++ (w.turn s t).2.waiting = s.waiting ++ t.arriving := by
  have hturned := w.turned_turn s t
  generalize w.turn s t = out at hturned ⊢
  cases hturned with
  | nothing => rfl
  | record hending hwaiting => exact hwaiting.symm

lemma reported_turn (w : Watch) (s : Watching) (t : Turn) :
    (w.turn s t).2.reported = s.reported + (w.turn s t).1.toList.length := by
  have hturned := w.turned_turn s t
  generalize w.turn s t = out at hturned ⊢
  cases hturned with
  | nothing => rfl
  | record => rfl

/-- A turn of a watch with a limit: a record that reaches it is the last one. -/
def underLimit (n : Nat) : Option Record × Watching → Option Record × Watching
  | (some r, s) => (some r, if n ≤ s.reported then { s with ending := some .counted } else s)
  | (none, s) => (none, s)

/-- The limit only decides whether a record that is reported is the last one. -/
lemma turn_limitedTo (w : Watch) (n : Nat) (s : Watching) (t : Turn) :
    (w.limitedTo n).turn s t = underLimit n (w.unlimited.turn s t) := by
  cases h : w.halted s t with
  | some ending =>
    rw [turn_of_halted (w := w.limitedTo n) h, turn_of_halted (w := w.unlimited) h]
    rfl
  | none =>
    cases hwaiting : s.waiting ++ t.arriving with
    | nil =>
      rw [turn_of_nil (w := w.limitedTo n) h hwaiting, turn_of_nil (w := w.unlimited) h hwaiting]
      rfl
    | cons r later =>
      rw [turn_of_cons (w := w.limitedTo n) h hwaiting,
        turn_of_cons (w := w.unlimited) h hwaiting]
      by_cases hover : n ≤ s.reported + 1 <;> simp [underLimit, hover]

/-! ### Any number of turns -/

lemma follow_append (w : Watch) (s : Watching) (turns later : List Turn) :
    w.follow s (turns ++ later) =
      ((w.follow s turns).1 ++ (w.follow (w.follow s turns).2 later).1,
        (w.follow (w.follow s turns).2 later).2) := by
  induction turns generalizing s with
  | nil => rfl
  | cons t turns ih =>
    rw [List.cons_append, follow_cons, follow_cons, ih, List.append_assoc]

/-- Records are reported in the order of their arrival, each once. -/
lemma waiting_follow (w : Watch) (s : Watching) (turns : List Turn) :
    (w.follow s turns).1 ++ (w.follow s turns).2.waiting =
      s.waiting ++ turns.flatMap Turn.arriving := by
  induction turns generalizing s with
  | nil => exact (List.append_nil _).symm
  | cons t later ih =>
    rw [follow_cons, List.append_assoc, ih, ← List.append_assoc, waiting_turn, List.flatMap_cons,
      List.append_assoc]

lemma reported_follow (w : Watch) (s : Watching) (turns : List Turn) :
    (w.follow s turns).2.reported = s.reported + (w.follow s turns).1.length := by
  induction turns generalizing s with
  | nil => rfl
  | cons t later ih =>
    rw [follow_cons, ih, reported_turn, List.length_append, Nat.add_assoc]

/-- With a limit, a watch reports the first records that it would report without. A limit of no
records lets one through, for the watch looks at it only after a record. -/
lemma follow_limitedTo (h : s.reported < max 1 n) (turns : List Turn) :
    ((w.limitedTo n).follow s turns).1 =
      (w.unlimited.follow s turns).1.take (max 1 n - s.reported) := by
  induction turns generalizing s with
  | nil => rw [follow, follow, List.take_nil]
  | cons t later ih =>
    have hreported := w.unlimited.reported_turn s t
    rw [follow_cons, follow_cons, turn_limitedTo]
    generalize w.unlimited.turn s t = out at hreported ⊢
    rcases out with ⟨_ | r, s'⟩
    · have hsame : s'.reported = s.reported := hreported
      rw [← hsame] at h ⊢
      exact ih h
    · have hone : s'.reported = s.reported + 1 := hreported
      have htake : max 1 n - s.reported = max 1 n - s'.reported + 1 := by omega
      dsimp only [underLimit, Option.toList_some, List.singleton_append]
      rw [htake, List.take_succ_cons]
      by_cases hover : n ≤ s'.reported
      · have hlast : max 1 n - s'.reported = 0 := by omega
        rw [if_pos hover, follow_of_ended rfl, hlast, List.take_zero]
      · rw [if_neg hover, ih (by omega)]

/-- The limit of a watch that is at work: at most as many records are reported, and all of them
exactly if the watch ended for that reason. -/
structure Within (n : Nat) (s : Watching) : Prop where
  le : s.reported ≤ max 1 n
  counted : s.ending = some .counted ↔ s.reported = max 1 n

lemma Within.turn (h : Within n s) (w : Watch) (t : Turn) :
    Within n ((w.limitedTo n).turn s t).2 := by
  have hturned := (w.limitedTo n).turned_turn s t
  generalize (w.limitedTo n).turn s t = out at hturned ⊢
  cases hturned with
  | nothing ending hending => exact ⟨h.le, hending.trans h.counted⟩
  | record hending hwaiting =>
    have hle := h.le
    have hne : s.reported ≠ max 1 n := by
      rw [ne_eq, ← h.counted, hending]
      nofun
    have hnext : s.reported + 1 ≤ max 1 n := by omega
    refine ⟨hnext, ?_⟩
    by_cases hover : n ≤ s.reported + 1
    · have hlast : s.reported + 1 = max 1 n := by omega
      exact iff_of_true (if_pos (decide_eq_true hover)) hlast
    · have hmore : s.reported + 1 ≠ max 1 n := by omega
      have hnot : ¬ (w.limitedTo n).isOver (s.reported + 1) = true := by simpa using hover
      exact iff_of_false (by simpa only [if_neg hnot] using parting_ne_counted t) hmore

lemma Within.follow (h : Within n s) (w : Watch) (turns : List Turn) :
    Within n ((w.limitedTo n).follow s turns).2 := by
  induction turns generalizing s with
  | nil => exact h
  | cons t later ih => exact ih (h.turn w t)

/-- Without a limit, what waits is reported if enough turns do not end the watch. -/
lemma prefix_follow {l : List Record} (hending : s.ending = none) (hl : l <+: s.waiting)
    {later : List Turn} (hlater : ∀ t ∈ later, w.Lasts t) (hlength : l.length ≤ later.length) :
    l <+: (w.unlimited.follow s later).1 := by
  induction later generalizing s l with
  | nil =>
    rw [List.length_eq_zero_iff.1 (Nat.le_zero.1 hlength)]
    exact List.nil_prefix
  | cons t later ih =>
    cases l with
    | nil => exact List.nil_prefix
    | cons r l =>
      obtain ⟨rest, hrest⟩ := hl
      obtain ⟨hlasts, hlater⟩ := List.forall_mem_cons.1 hlater
      have hwaiting : s.waiting ++ t.arriving = r :: (l ++ (rest ++ t.arriving)) := by
        rw [← hrest, List.cons_append, List.cons_append, List.append_assoc]
      have hturn := turn_of_cons (w := w.unlimited) (hlasts.halted hending) hwaiting
      rw [follow_cons, hturn]
      refine List.cons_prefix_cons.2 ⟨rfl, ih ?_ ?_ hlater ?_⟩
      · simp [Turn.parting, hlasts.connected]
      · exact List.prefix_append l _
      · exact Nat.le_of_succ_le_succ hlength

/-- What a limit does to a watch over any turns, whatever ends it. -/
structure Counts (w : Watch) (n : Nat) (turns : List Turn) : Prop where
  /-- Without a limit, records are reported in the order of their arrival, each once. -/
  order : (w.unlimited.follow {} turns).1 ++ (w.unlimited.follow {} turns).2.waiting =
    turns.flatMap Turn.arriving
  /-- Without a limit, all that has arrived is reported if the watch goes on long enough. -/
  complete (later : List Turn) : (w.unlimited.follow {} turns).2.ending = none →
    (∀ t ∈ later, w.Lasts t) →
    (w.unlimited.follow {} turns).2.waiting.length ≤ later.length →
    turns.flatMap Turn.arriving <+: (w.unlimited.follow {} (turns ++ later)).1
  /-- With a limit, the first of these records are reported. -/
  first : ((w.limitedTo n).follow {} turns).1 =
    (w.unlimited.follow {} turns).1.take (max 1 n)
  counted : ((w.limitedTo n).follow {} turns).2.ending = some .counted ↔
    ((w.limitedTo n).follow {} turns).1.length = max 1 n

lemma counts (w : Watch) (n : Nat) (turns : List Turn) : w.Counts n turns := by
  have hnew : Within n {} := by
    refine ⟨Nat.zero_le _, iff_of_false nofun ?_⟩
    show 0 ≠ max 1 n
    omega
  constructor
  case order => exact w.unlimited.waiting_follow {} turns
  case complete =>
    intro later hending hlater hlength
    have hprefix := prefix_follow hending (List.prefix_refl _) hlater hlength
    rw [follow_append, ← List.nil_append (turns.flatMap _), ← waiting_follow w.unlimited {} turns]
    exact (List.prefix_append_right_inj _).2 hprefix
  case first =>
    have hpos : ({} : Watching).reported < max 1 n := by
      show 0 < max 1 n
      omega
    exact follow_limitedTo hpos turns
  case counted =>
    rw [(hnew.follow w turns).counted, reported_follow]
    show 0 + _ = _ ↔ _
    rw [Nat.zero_add]

end Watch

/-! ### Requests -/

/-- The turns that the watch of a request meets once its set-up is accepted. -/
def Request.turns (now : Duration) (time : Float) (host : Host) (r : Request) : List Turn :=
  match r.watch? now time host with
  | none => []
  | some (w, d) =>
    match (sendAll Desk.perform d w.setup).value with
    | (.error _, _) => []
    | (.ok (), d) => d.turns host.moments

/-- The plan with a limit to the number of its records. -/
def Plan.limitedTo (n : Nat) : Plan → Plan
  | .watch target w => .watch target (w.limitedTo n)
  | p => p

lemma Plan.watch?_limitedTo (time : Float) (host : Host) (n : Nat) (p : Plan) :
    (p.limitedTo n).watch? time host =
      (p.watch? time host).map fun watch => (watch.1.limitedTo n, watch.2) := by
  cases p with
  | watch target w =>
    simp only [limitedTo, watch?]
    split <;> rfl
  | _ => rfl

namespace Request

section

variable (device : DeviceChoice) (measures : MeasureChoice) (period : Option UInt16)
  (duration : Option String) (now : Duration) (time : Float) (host : Host) (n : Nat)

/-- A request with a limit comes to what the request without comes to, with this limit. -/
lemma plan_some (handler : Except String Unit) :
    (monitor device measures period (some n) duration).plan now handler =
      Plan.limitedTo n <$> (monitor device measures period none duration).plan now handler := by
  simp only [plan, map_bind, map_pure]
  rfl

lemma watch?_some :
    (monitor device measures period (some n) duration).watch? now time host =
      ((monitor device measures period none duration).watch? now time host).map
        fun watch => (watch.1.limitedTo n, watch.2) := by
  rw [watch?, watch?, plan_some]
  cases (monitor device measures period none duration).plan now host.handler with
  | error halt => rfl
  | ok p => exact p.watch?_limitedTo time host n

end

/-- A run reports what its watch reports in the turns that it meets, and prints it. -/
lemma reported_run {r : Request} {now : Duration} {time : Float} {host : Host} {w : Watch}
    {d : Desk} (form : Report.Form) (hwatch : r.watch? now time host = some (w, d)) :
    let o := (r.run form now time host).value
    o.reported = (w.follow {} (r.turns now time host)).1 ∧
      o.printed = String.join (o.reported.map (Report.record form)) := by
  obtain ⟨target, n, -, -, -, hrun⟩ := run_of_watch? hwatch
  rw [hrun form, turns, hwatch]
  match hsend : (sendAll Desk.perform d w.setup).value with
  | (.error e, d') =>
    rw [(Watch.run_of_error form hsend).1]
    simp only [hsend]
    exact ⟨rfl, rfl⟩
  | (.ok (), d') =>
    rw [(Watch.run_of_ok form hsend).1]
    simp only [hsend]
    exact ⟨w.reported_report {} d' host.moments, trivial⟩

end Request

/-- What the limit of a request does to its run: `o` is the run with a limit of `n` records and `o'`
the run without. -/
structure Request.Limits (r : Request) (now : Duration) (time : Float) (host : Host)
    (form : Report.Form) (n : Nat) (o o' : Outcome) : Prop where
  printed : o.printed = String.join (o.reported.map (Report.record form))
  /-- The watch has the limit, and the run reports what it reports in the turns that it meets. -/
  follows (w : Watch) (d : Desk) : r.watch? now time host = some (w, d) →
    w.count = some n ∧ o.reported = (w.follow {} (r.turns now time host)).1
  /-- The first of the records that are reported without the limit are reported. -/
  first : o.reported = o'.reported.take (max 1 n)
  /-- These are the first that arrive in the turns, in the order of their arrival. -/
  order : o'.reported <+: (r.turns now time host).flatMap Turn.arriving

namespace Request

lemma limits_monitor (form : Report.Form) (now : Duration) (time : Float) (host : Host)
    (device : DeviceChoice) (measures : MeasureChoice) (period : Option UInt16) (n : Nat)
    (duration : Option String) :
    let r (count : Option Nat) := monitor device measures period count duration
    (r (some n)).Limits now time host form n ((r (some n)).run form now time host).value
      ((r none).run form now time host).value := by
  intro r
  have hlimited : (r (some n)).watch? now time host =
      ((r none).watch? now time host).map fun watch => (watch.1.limitedTo n, watch.2) :=
    watch?_some device measures period duration now time host n
  cases hwatch : (r none).watch? now time host with
  | none =>
    rw [hwatch] at hlimited
    obtain ⟨-, hreported, hprinted, -⟩ := run_of_watch?_eq_none hlimited form
    obtain ⟨-, hreported', -, -⟩ := run_of_watch?_eq_none hwatch form
    constructor
    case printed =>
      rw [hprinted, hreported]
      rfl
    case follows => exact fun w d h => nomatch hlimited.symm.trans h
    case first => rw [hreported, hreported', List.take_nil]
    case order =>
      rw [hreported']
      exact List.nil_prefix
  | some watch =>
    obtain ⟨w, d⟩ := watch
    rw [hwatch] at hlimited
    obtain ⟨target, -, hplan, -⟩ := run_of_watch? hwatch
    obtain ⟨_, _, ⟨⟩, -, -, hcount⟩ := plan_monitor hplan
    have hunlimited : w.unlimited = w := by rw [Watch.unlimited, ← hcount]
    have hturns : (r (some n)).turns now time host = (r none).turns now time host := by
      rw [turns, turns, hlimited, hwatch]
      rfl
    obtain ⟨hreported, hprinted⟩ := reported_run form hlimited
    obtain ⟨hreported', -⟩ := reported_run form hwatch
    rw [hturns] at hreported
    have hcounts := w.counts n ((r none).turns now time host)
    constructor
    case printed => exact hprinted
    case follows =>
      intro w' d' h
      obtain ⟨rfl, -⟩ := Prod.mk.inj (Option.some.inj (hlimited.symm.trans h))
      rw [hturns]
      exact ⟨rfl, hreported⟩
    case first =>
      rw [hreported, hreported', hcounts.first, hunlimited]
    case order =>
      rw [hturns, hreported', ← hcounts.order, hunlimited]
      exact List.prefix_append _ _

/-- What the limit of a monitor request does. Whatever interrupts, delays or ends its watch, the
watch reports the first of the records that it would report without a limit, in the order of their
arrival, and it ends for that reason exactly when it has reported all that it may. It may report as
many as the limit says, but one even if that is none, for the limit is looked at after a record. A
run prints what its watch reports. -/
theorem monitor_counts (n : Nat) :
    (∀ (w : Watch) (turns : List Turn), w.Counts n turns) ∧
    ∀ (form : Report.Form) (now : Duration) (time : Float) (host : Host) (device : DeviceChoice)
      (measures : MeasureChoice) (period : Option UInt16) (duration : Option String),
      let r (count : Option Nat) := monitor device measures period count duration
      (r (some n)).Limits now time host form n ((r (some n)).run form now time host).value
        ((r none).run form now time host).value :=
  ⟨fun w turns => w.counts n turns, fun form now time host device measures period duration =>
    limits_monitor form now time host device measures period n duration⟩

end Request

/-! ### A limit of no records -/

/-- A node that accepts what is asked of it, and sends one radio packet without samples. -/
def receptive : Node where
  replies := [some [[0x80, 0x02, 0x72, 0x0A]],
    some [[0x80, 0x02, 0x79, 0x0A, 0x80, 0x06, 0xFE, 0, 0, 0, 0, 0]],
    some [[0x80, 0x02, 0x79, 0x0A]]]

/-- A host where the worker is done with the packet in the first turn. -/
def receptiveHost : Host where
  line _ := .ok receptive
  moments := [{ decoded := 1 }]

/-- Asks for no measures and for no record. -/
def nothingAtAll : Request :=
  .monitor portP { voltageOnly with voltage := false } none (some 0) none

/-- The watch that is asked for. -/
def receptiveWatch : Watch where
  consumption := none
  radio := none
  count := some 0
  deadline := none

/-- The desk that it is run at. -/
def receptiveDesk : Desk :=
  receptiveHost.desk 0 { timeout := .ofSeconds 1, node := receptive }

lemma plan_nothingAtAll :
    nothingAtAll.plan ⟨0⟩ (.ok ()) = .ok (.watch targetP receptiveWatch) := by
  have htimeout : readDuration "1s" = .ok (.ofSeconds 1) := by decide +kernel
  have hsetup : ({ voltageOnly with voltage := false } : MeasureChoice).setup = .ok none := by
    decide +kernel
  rw [nothingAtAll, Request.plan, hsetup, portP, DeviceChoice.target, htimeout]
  rfl

lemma watch?_nothingAtAll :
    nothingAtAll.watch? ⟨0⟩ 0 receptiveHost = some (receptiveWatch, receptiveDesk) := by
  rw [Request.watch?, show receptiveHost.handler = .ok () from rfl, plan_nothingAtAll]
  rfl

/-- A run that may print no record prints one. -/
theorem Request.prints_beyond_limit :
    let o := (nothingAtAll.run .json ⟨0⟩ 0 receptiveHost).value
    let arrived := (nothingAtAll.turns ⟨0⟩ 0 receptiveHost).flatMap Turn.arriving
    o.code = some Code.success.number ∧
      o.printed = Report.record .json (.radio { samples := [] }) ∧
      o.printed ≠ String.join ((arrived.take 0).map (Report.record .json)) := by
  intro o arrived
  have ho : o = (receptiveWatch.run .json targetP receptiveHost.moments receptiveDesk).value := by
    obtain ⟨target, n, hplan, -, -, hrun⟩ := Request.run_of_watch? watch?_nothingAtAll
    cases hplan.symm.trans plan_nothingAtAll
    exact congrArg Logged.value (hrun .json)
  have hcode : o.code = some Code.success.number := by
    rw [ho]
    decide +kernel
  have hprinted : o.printed = Report.record .json (.radio { samples := [] }) := by
    rw [ho]
    decide +kernel
  refine ⟨hcode, hprinted, ?_⟩
  rw [hprinted, List.take_zero]
  decide +kernel

end ControlNode.Cli
