import ControlNode.Proofs.Inbox.Pairing
import Mathlib.Data.List.Forall2

/-!
# Answers and measurements are kept apart

Two parties share an inbox and see different sides of it: who sends commands sees the mailbox and
the counts of answers, who takes measurements sees the queue and the count of measurements. Each
side belongs to one class of packets (`Belongs`): what is routed changes it only by its packets of
this class. So one party cannot tell two histories apart that differ in the packets of the other
(`run_sides`).
-/

namespace ControlNode.Inbox

/-! ### Sides of an inbox -/

/-- The packets of a class, in their order. -/
def only (kind : Packet.Kind) (ps : List Packet) : List Packet :=
  ps.filter fun p => p.kind? = some kind

/-- A side of an inbox belongs to a class of packets if a packet of the class changes it alike
wherever it was alike, and all other packets leave it as it is. -/
structure Belongs {α : Type} (side : Inbox → α) (kind : Packet.Kind) : Prop where
  consistent : ∀ {x y : Inbox} {p : Packet}, side x = side y → p.kind? = some kind →
    side (x.route p).value = side (y.route p).value
  respects : ∀ (x : Inbox) {p : Packet}, p.kind? ≠ some kind → side (x.route p).value = side x

section

variable {α : Type} {side : Inbox → α} {kind : Packet.Kind} {x y : Inbox}

lemma Belongs.routeAll_only (hside : Belongs side kind) (hxy : side x = side y)
    (ps : List Packet) :
    side (x.routeAll ps).value = side (y.routeAll (only kind ps)).value := by
  induction ps generalizing x y with
  | nil => exact hxy
  | cons p ps ih =>
    rw [value_routeAll_cons, only, List.filter_cons]
    by_cases hp : p.kind? = some kind
    · rw [if_pos (by simpa using hp), value_routeAll_cons]
      exact ih (hside.consistent hxy hp)
    · rw [if_neg (by simpa using hp)]
      apply ih
      rw [hside.respects x hp]
      exact hxy

/-- Routing packets that agree on a class leaves the side that belongs to it alike. -/
theorem Belongs.routeAll (hside : Belongs side kind) (hxy : side x = side y)
    {ps qs : List Packet} (h : only kind ps = only kind qs) :
    side (x.routeAll ps).value = side (y.routeAll qs).value := by
  calc side (x.routeAll ps).value
      = side (y.routeAll (only kind ps)).value := hside.routeAll_only hxy ps
    _ = side (y.routeAll (only kind qs)).value := by rw [h]
    _ = side (y.routeAll qs).value := (hside.routeAll_only rfl qs).symm

end

/-- What the sender of commands sees. -/
structure AnswerSide where
  mailbox : Option Packet
  answers : Nat
  staleOverwritten : Nat
  staleDrained : Nat

/-- What the taker of measurements sees. -/
structure MeasureSide where
  queue : List Packet
  measurements : Nat

def answerSide (x : Inbox) : AnswerSide :=
  ⟨x.mailbox, x.tally.answers, x.tally.staleOverwritten, x.tally.staleDrained⟩

def measureSide (x : Inbox) : MeasureSide := ⟨x.queue, x.tally.measurements⟩

lemma answerSide_inj {x y : Inbox} :
    x.answerSide = y.answerSide ↔
      x.mailbox = y.mailbox ∧ x.tally.answers = y.tally.answers ∧
        x.tally.staleOverwritten = y.tally.staleOverwritten ∧
        x.tally.staleDrained = y.tally.staleDrained := by
  rw [answerSide, answerSide, AnswerSide.mk.injEq]

lemma measureSide_inj {x y : Inbox} :
    x.measureSide = y.measureSide ↔
      x.queue = y.queue ∧ x.tally.measurements = y.tally.measurements := by
  rw [measureSide, measureSide, MeasureSide.mk.injEq]

lemma belongs_answerSide : Belongs answerSide .answer where
  consistent := by
    intro x y p hxy hp
    obtain ⟨hmailbox, hanswers, hoverwritten, hdrained⟩ := answerSide_inj.1 hxy
    rw [value_route_of_answer hp, value_route_of_answer hp, answerSide_inj, hmailbox, hanswers,
      hoverwritten]
    exact ⟨rfl, rfl, rfl, hdrained⟩
  respects := by
    intro x p hp
    match hkind : p.kind? with
    | none => rw [value_route_of_none hkind, answerSide, answerSide]
    | some .measurement => rw [value_route_of_measurement hkind, answerSide, answerSide]
    | some .errorReport => rw [value_route_of_errorReport hkind, answerSide, answerSide]
    | some .answer => exact absurd hkind hp

lemma belongs_measureSide : Belongs measureSide .measurement where
  consistent := by
    intro x y p hxy hp
    obtain ⟨hqueue, hmeasurements⟩ := measureSide_inj.1 hxy
    rw [value_route_of_measurement hp, value_route_of_measurement hp, measureSide_inj, hqueue,
      hmeasurements]
    exact ⟨rfl, rfl⟩
  respects := by
    intro x p hp
    match hkind : p.kind? with
    | none => rw [value_route_of_none hkind, measureSide, measureSide]
    | some .measurement => exact absurd hkind hp
    | some .errorReport => rw [value_route_of_errorReport hkind, measureSide, measureSide]
    | some .answer => rw [value_route_of_answer hkind, measureSide, measureSide]

/-! ### Operations that are alike -/

namespace Op

/-- The packets that are routed in an operation. A command without a frame is not written, so
nothing arrives meanwhile. -/
def routed : Op → List Packet
  | .route p => [p]
  | .send command during _ => if 1 ≤ command.length ∧ command.length ≤ 255 then during else []
  | .receive => []

/-- Two operations that differ in nothing but the packets that are routed. -/
inductive SameButRouted : Op → Op → Prop
  | route (p q : Packet) : SameButRouted (.route p) (.route q)
  | send (command : Packet) (during during' : List Packet) (failure : Option Frame.Error) :
      SameButRouted (.send command during failure) (.send command during' failure)
  | receive : SameButRouted .receive .receive

/-- Two operations of one sort, whatever the commands are and whether they can be written. -/
inductive SameSort : Op → Op → Prop
  | route (p q : Packet) : SameSort (.route p) (.route q)
  | send (command command' : Packet) (during during' : List Packet)
      (failure failure' : Option Frame.Error) :
      SameSort (.send command during failure) (.send command' during' failure')
  | receive : SameSort .receive .receive

/-- Two operations that differ in nothing but packets which are no answers. -/
structure AlikeForAnswers (op op' : Op) : Prop where
  same : SameButRouted op op'
  routed : only .answer op.routed = only .answer op'.routed

/-- Two operations of one sort that route the same measurements. -/
structure AlikeForMeasurements (op op' : Op) : Prop where
  same : SameSort op op'
  routed : only .measurement op.routed = only .measurement op'.routed

end Op

/-- What a sender of commands is told. -/
def Reply.sent? : Reply → Option (Option Packet × Option (List UInt8))
  | .sent answer wire => some (answer, wire)
  | _ => none

/-- What a taker of measurements is told. -/
def Reply.received? : Reply → Option (Option Packet)
  | .received p => some p
  | _ => none

/-! ### Sending a command -/

section

variable {x y : Inbox} {command : Packet} {during : List Packet} {failure : Option Frame.Error}

lemma value_discardStale (x : Inbox) :
    x.discardStale.value =
      { x with
        mailbox := none
        tally := { x.tally with
          staleDrained := x.tally.staleDrained + if x.mailbox.isSome then 1 else 0 } } := by
  obtain ⟨mailbox, queue, tally⟩ := x
  cases mailbox <;> rfl

lemma answerSide_discardStale (h : x.answerSide = y.answerSide) :
    x.discardStale.value.answerSide = y.discardStale.value.answerSide := by
  obtain ⟨hmailbox, hanswers, hoverwritten, hdrained⟩ := answerSide_inj.1 h
  rw [value_discardStale, value_discardStale, answerSide_inj, hmailbox, hdrained]
  exact ⟨rfl, hanswers, hoverwritten, rfl⟩

lemma measureSide_discardStale (x : Inbox) :
    x.discardStale.value.measureSide = x.measureSide := by
  rw [value_discardStale, measureSide, measureSide]

lemma answerSide_settle {σ : Type} (w : Except Frame.Error Unit) (line : σ)
    (h : x.answerSide = y.answerSide) :
    (settle w line x).1 = (settle w line y).1 ∧
      (settle w line x).2.1 = (settle w line y).2.1 ∧
      (settle w line x).2.2.answerSide = (settle w line y).2.2.answerSide := by
  cases w with
  | error e => exact ⟨rfl, rfl, h⟩
  | ok =>
    obtain ⟨hmailbox, hanswers, hoverwritten, hdrained⟩ := answerSide_inj.1 h
    exact ⟨hmailbox, rfl, answerSide_inj.2 ⟨rfl, hanswers, hoverwritten, hdrained⟩⟩

lemma measureSide_settle {σ : Type} (w : Except Frame.Error Unit) (line : σ) (x : Inbox) :
    (settle w line x).2.2.measureSide = x.measureSide := by
  cases w <;> rfl

/-- A command without a frame only empties the mailbox. -/
lemma value_step_send_of_not_framed (timeout : Duration) (x : Inbox)
    (h : ¬ (1 ≤ command.length ∧ command.length ≤ 255)) :
    (x.step timeout (.send command during failure)).value =
      (.sent none none, x.discardStale.value) := by
  obtain ⟨e, he⟩ := Frame.exists_encode_eq_error h
  rw [value_step_send, value_sendAndWait_of_error timeout he]

/-- A command with a frame is settled once what arrives meanwhile is routed. -/
lemma value_step_send_of_framed (timeout : Duration) (x : Inbox)
    (h : 1 ≤ command.length ∧ command.length ≤ 255) :
    (x.step timeout (.send command during failure)).value =
      let sent := settle (written failure)
        (some (Frame.sync :: UInt8.ofNat command.length :: command))
        (x.discardStale.value.routeAll during).value
      (.sent sent.1 sent.2.1, sent.2.2) := by
  have hencode := Frame.encode_eq_ok_iff.2 ⟨h, rfl⟩
  rw [value_step_send, value_sendAndWait_of_ok timeout hencode (value_recording ..)]

end

/-! ### One operation -/

lemma value_step_receive (timeout : Duration) (x : Inbox) :
    (x.step timeout .receive).value =
      (.received x.queue.head?, { x with queue := x.queue.tail }) := by
  obtain ⟨mailbox, queue, tally⟩ := x
  cases queue <;> rfl

variable {timeout : Duration} {x y : Inbox} {op op' : Op}

/-- An operation tells a sender of commands nothing about packets that are no answers. -/
lemma answerSide_step (hxy : x.answerSide = y.answerSide) (hop : op.AlikeForAnswers op') :
    (x.step timeout op).value.1.sent? = (y.step timeout op').value.1.sent? ∧
      (x.step timeout op).value.2.answerSide = (y.step timeout op').value.2.answerSide := by
  obtain ⟨hsame, hrouted⟩ := hop
  cases hsame with
  | route p q => exact ⟨rfl, belongs_answerSide.routeAll hxy hrouted⟩
  | receive =>
    rw [value_step_receive, value_step_receive]
    exact ⟨rfl, hxy⟩
  | send command during during' failure =>
    have hdiscard := answerSide_discardStale hxy
    by_cases hframed : 1 ≤ command.length ∧ command.length ≤ 255
    · rw [Op.routed, Op.routed, if_pos hframed, if_pos hframed] at hrouted
      obtain ⟨hanswer, hwire, hside⟩ := answerSide_settle (written failure)
        (some (Frame.sync :: UInt8.ofNat command.length :: command))
        (belongs_answerSide.routeAll hdiscard hrouted)
      rw [value_step_send_of_framed timeout x hframed, value_step_send_of_framed timeout y hframed]
      exact ⟨by simp only [Reply.sent?, hanswer, hwire], hside⟩
    · rw [value_step_send_of_not_framed timeout x hframed,
        value_step_send_of_not_framed timeout y hframed]
      exact ⟨rfl, hdiscard⟩

/-- Sending a command does to the measurements what routing the packets does that arrive
meanwhile. -/
lemma measureSide_step_send (timeout : Duration) (x : Inbox) (command : Packet)
    (during : List Packet) (failure : Option Frame.Error) :
    (x.step timeout (.send command during failure)).value.2.measureSide =
      (x.routeAll (Op.send command during failure).routed).value.measureSide := by
  have hdiscard := measureSide_discardStale x
  by_cases hframed : 1 ≤ command.length ∧ command.length ≤ 255
  · rw [value_step_send_of_framed timeout x hframed, Op.routed, if_pos hframed]
    rw [measureSide_settle]
    exact belongs_measureSide.routeAll hdiscard rfl
  · rw [value_step_send_of_not_framed timeout x hframed, Op.routed, if_neg hframed]
    exact hdiscard

/-- An operation tells a taker of measurements nothing about other packets, and nothing about the
commands. -/
lemma measureSide_step (hxy : x.measureSide = y.measureSide) (hop : op.AlikeForMeasurements op') :
    (x.step timeout op).value.1.received? = (y.step timeout op').value.1.received? ∧
      (x.step timeout op).value.2.measureSide = (y.step timeout op').value.2.measureSide := by
  obtain ⟨hsame, hrouted⟩ := hop
  cases hsame with
  | route p q => exact ⟨rfl, belongs_measureSide.routeAll hxy hrouted⟩
  | receive =>
    obtain ⟨hqueue, hmeasurements⟩ := measureSide_inj.1 hxy
    rw [value_step_receive, value_step_receive, hqueue, measureSide_inj]
    exact ⟨rfl, rfl, hmeasurements⟩
  | send command command' during during' failure failure' =>
    refine ⟨rfl, ?_⟩
    rw [measureSide_step_send, measureSide_step_send]
    exact belongs_measureSide.routeAll hxy hrouted

/-! ### Any history -/

/-- What an operation keeps up, with what it routes and what it tells, any history keeps up. -/
lemma run_induction {β : Type} {told : Reply → Option β}
    {P : List Packet → List β → Inbox → Prop} {timeout : Duration}
    (hstep : ∀ {routed : List Packet} {got : List β} {x : Inbox} (op : Op), P routed got x →
      let done := (x.step timeout op).value
      P (routed ++ op.routed) (got ++ (told done.1).toList) done.2)
    {routed : List Packet} {got : List β} {x : Inbox} (h : P routed got x) (history : List Op) :
    let done := (run timeout x history).value
    P (routed ++ history.flatMap Op.routed) (got ++ done.1.filterMap told) done.2 := by
  induction history generalizing routed got x with
  | nil =>
    rw [← List.append_nil routed, ← List.append_nil got] at h
    exact h
  | cons op history ih =>
    have hlater := ih (hstep op h)
    simp only [value_run_cons, List.flatMap_cons, List.filterMap_cons]
    cases htold : told (x.step timeout op).value.1 with
    | none => simpa [htold] using hlater
    | some b => simpa [htold] using hlater

lemma length_replies (timeout : Duration) (x : Inbox) (history : List Op) :
    (run timeout x history).value.1.length = history.length := by
  induction history generalizing x with
  | nil => rfl
  | cons op history ih =>
    rw [value_run_cons, List.length_cons, List.length_cons, ih]

/-- A side on which every operation is alike, and of which it tells alike, is alike after any
history. -/
lemma run_alike {α β : Type} {side : Inbox → α} {told : Reply → β} {Alike : Op → Op → Prop}
    (hstep : ∀ {x y : Inbox} {op op' : Op}, side x = side y → Alike op op' →
      told (x.step timeout op).value.1 = told (y.step timeout op').value.1 ∧
        side (x.step timeout op).value.2 = side (y.step timeout op').value.2)
    {history history' : List Op} (hxy : side x = side y)
    (h : List.Forall₂ Alike history history') :
    (run timeout x history).value.1.map told = (run timeout y history').value.1.map told ∧
      side (run timeout x history).value.2 = side (run timeout y history').value.2 := by
  induction h generalizing x y with
  | nil => exact ⟨rfl, hxy⟩
  | cons hop hlater ih =>
    obtain ⟨htold, hside⟩ := hstep hxy hop
    obtain ⟨hlater, hend⟩ := ih hside
    simp only [value_run_cons, List.map_cons, htold, hlater]
    exact ⟨trivial, hend⟩

/-- Two histories of a new inbox that differ in the packets which are routed. If each operation
routes the same answers in both, all commands are answered alike, the mailbox holds the same and
the counts of answers are equal. If each operation routes the same measurements in both, the same
measurements are received and wait, and their counts are equal, whatever commands are sent and
whether or not they can be written. -/
theorem run_sides (timeout : Duration) (history history' : List Op) :
    let done := (run timeout {} history).value
    let done' := (run timeout {} history').value
    (List.Forall₂ Op.AlikeForAnswers history history' →
      done.1.map Reply.sent? = done'.1.map Reply.sent? ∧
      done.2.mailbox = done'.2.mailbox ∧
      done.2.tally.answers = done'.2.tally.answers ∧
      done.2.tally.staleOverwritten = done'.2.tally.staleOverwritten ∧
      done.2.tally.staleDrained = done'.2.tally.staleDrained) ∧
    (List.Forall₂ Op.AlikeForMeasurements history history' →
      done.1.map Reply.received? = done'.1.map Reply.received? ∧
      done.2.queue = done'.2.queue ∧
      done.2.tally.measurements = done'.2.tally.measurements) := by
  intro done done'
  constructor
  · intro h
    obtain ⟨hsent, hside⟩ := run_alike (x := {}) (y := {}) answerSide_step rfl h
    exact ⟨hsent, answerSide_inj.1 hside⟩
  · intro h
    obtain ⟨hreceived, hside⟩ := run_alike (x := {}) (y := {}) measureSide_step rfl h
    exact ⟨hreceived, measureSide_inj.1 hside⟩

end ControlNode.Inbox
