import ControlNode.Connection.Listener
import ControlNode.Proofs.Frame.Acceptance
import ControlNode.Proofs.Frame.Intake
import ControlNode.Proofs.Inbox.Routing

/-!
# Listening until a line ends

A listener routes one packet after the other, in turns that can also be silent. Each turn routes the
first of the packets that are outstanding or none (`Listener.routed_turn`), and on a line that ends
each turn brings the listener closer to its own end (`Listener.effort_turn_lt`). So it routes the
packets of one feed of what arrives before the end of the line, and if it is stopped earlier, the
first of them (`Listener.turns_until_end`).
-/

namespace ControlNode

open ControlNode.Frame ControlNode.Line

/-- What has not arrived yet on a line that is about to end: the next read returns no data or fails
for good, or there is none and the line is closed. -/
inductive Line.IsOver : List Arrival → Ending → Prop
  | arrival {a : Arrival} (h : a.goesOn = false) (later : List Arrival) (ending : Ending) :
      IsOver (a :: later) ending
  | closed : IsOver [] .closed

/-- A line that has something to deliver before it is over. -/
def Line.script (arrivals closing : List Arrival) (ending : Ending) : Source :=
  { arrivals := arrivals ++ closing, ending }

section

variable {arrivals closing : List Arrival} {ending : Ending}

lemma Line.IsOver.ends (h : IsOver closing ending) : (script arrivals closing ending).Ends := by
  cases h with
  | @arrival a hover later ending =>
    exact .inr ⟨a, List.mem_append_right _ List.mem_cons_self, hover⟩
  | closed => exact .inl rfl

lemma Line.IsOver.stream_script (h : IsOver closing ending)
    (hgoes : ∀ a ∈ arrivals, a.goesOn = true) :
    (script arrivals closing ending).stream = arrivals.flatMap Arrival.bytes := by
  have hover : closing.takeWhile Arrival.goesOn = [] := by
    cases h with
    | arrival hover later ending => exact List.takeWhile_cons_of_neg (by simp [hover])
    | closed => rfl
  rw [Source.stream, Source.leading, script, List.takeWhile_append_of_pos hgoes, hover,
    List.append_nil, List.nil_append]

end

namespace Listener

/-- The packets that a listener has still to route. -/
def outstanding (l : Listener) : List Packet := if l.running then l.intake.outcome.1 else []

/-- A bound of the turns that a listener takes before its line ends: one for each packet, one for
each arrival, and one for the end. -/
def effort (l : Listener) : Nat :=
  if l.running then l.outstanding.length + l.intake.source.leading.length + 1 else 0

variable {l : Listener}

lemma outstanding_of_running (h : l.running = true) : l.outstanding = l.intake.outcome.1 :=
  if_pos h

lemma outstanding_of_not_running (h : l.running = false) : l.outstanding = [] :=
  if_neg (by simp [h])

lemma effort_of_running (h : l.running = true) :
    l.effort = l.intake.outcome.1.length + l.intake.source.leading.length + 1 := by
  rw [effort, if_pos h, outstanding_of_running h]

lemma turn_of_not_running (h : l.running = false) (x : Inbox) : l.turn x = (l, x) := by
  rw [turn, if_neg (by simp [h])]

/-! ### One turn -/

/-- A turn of a running listener routes the packet that is taken, or waits, or is the last one. -/
lemma turn_of_running (h : l.running = true) (x : Inbox) :
    (∃ p intake, l.intake.Progress (.ok (some p)) intake ∧
      l.turn x = ({ l with intake }, (x.route p).value)) ∨
    (∃ intake, l.intake.Progress (.ok none) intake ∧ l.turn x = ({ l with intake }, x)) ∨
    (∃ e intake, l.intake.Progress (.error e) intake ∧
      l.turn x = ({ intake, running := false }, x)) := by
  have hprogress := l.intake.progress_next
  rw [turn, if_pos h]
  match hnext : l.intake.next with
  | (.ok (some p), intake) =>
    rw [hnext] at hprogress
    exact .inl ⟨p, intake, hprogress, rfl⟩
  | (.ok none, intake) =>
    rw [hnext] at hprogress
    exact .inr (.inl ⟨intake, hprogress, rfl⟩)
  | (.error e, intake) =>
    rw [hnext] at hprogress
    exact .inr (.inr ⟨e, intake, hprogress, rfl⟩)

/-- A turn routes the first packets that are outstanding and leaves the others. -/
lemma routed_turn (l : Listener) (x : Inbox) :
    ∃ routed, l.outstanding = routed ++ (l.turn x).1.outstanding ∧
      (l.turn x).2 = (x.routeAll routed).value := by
  cases hrunning : l.running with
  | false =>
    rw [turn_of_not_running hrunning]
    exact ⟨[], rfl, rfl⟩
  | true =>
    have hrest (intake : Intake) : outstanding { l with intake } = intake.outcome.1 :=
      outstanding_of_running hrunning
    rw [outstanding_of_running hrunning]
    obtain ⟨p, intake, hprogress, hturn⟩ | ⟨intake, hprogress, hturn⟩ |
      ⟨e, intake, hprogress, hturn⟩ := turn_of_running hrunning x <;> rw [hturn]
    · cases hprogress with
      | packet h _ =>
        refine ⟨[p], ?_, rfl⟩
        rw [hrest, h]
        rfl
    · cases hprogress with
      | silence h _ _ =>
        refine ⟨[], ?_, rfl⟩
        rw [hrest, h]
        rfl
    · cases hprogress with
      | ended _ h =>
        refine ⟨[], ?_, rfl⟩
        rw [h, outstanding_of_not_running rfl]
        rfl

/-- On a line that ends, every turn leaves less to do. -/
lemma effort_turn_lt (hends : l.intake.source.Ends) (hrunning : l.running = true) (x : Inbox) :
    (l.turn x).1.effort < l.effort ∧
      ((l.turn x).1.running = true → (l.turn x).1.intake.source.Ends) := by
  have hrest (intake : Intake) : effort { l with intake } =
      intake.outcome.1.length + intake.source.leading.length + 1 := effort_of_running hrunning
  rw [effort_of_running hrunning]
  obtain ⟨p, intake, hprogress, hturn⟩ | ⟨intake, hprogress, hturn⟩ | ⟨e, intake, -, hturn⟩ :=
    turn_of_running hrunning x <;> rw [hturn]
  · cases hprogress with
    | packet h hlater =>
      refine ⟨?_, fun _ => hlater.ends hends⟩
      have hle := hlater.leading_le
      rw [hrest, h, List.length_cons]
      omega
  · cases hprogress with
    | silence h hlater hlt =>
      refine ⟨?_, fun _ => hlater.ends hends⟩
      have hlt := hlt hends
      rw [hrest, h]
      omega
  · exact ⟨Nat.succ_pos _, nofun⟩

/-! ### Any number of turns -/

lemma turns_succ (n : Nat) (l : Listener) (x : Inbox) :
    turns (n + 1) l x = turns n (l.turn x).1 (l.turn x).2 := rfl

lemma turns_of_not_running (h : l.running = false) (n : Nat) (x : Inbox) :
    turns n l x = (l, x) := by
  induction n with
  | zero => rfl
  | succ n ih => rw [turns_succ, turn_of_not_running h, ih]

/-- Any number of turns routes the first packets that are outstanding and leaves the others. -/
lemma routed_turns (n : Nat) (l : Listener) (x : Inbox) :
    ∃ routed, l.outstanding = routed ++ (turns n l x).1.outstanding ∧
      (turns n l x).2 = (x.routeAll routed).value := by
  induction n generalizing l x with
  | zero => exact ⟨[], rfl, rfl⟩
  | succ n ih =>
    obtain ⟨first, hfirst, hturn⟩ := routed_turn l x
    obtain ⟨later, hlater, hturns⟩ := ih (l.turn x).1 (l.turn x).2
    refine ⟨first ++ later, ?_, ?_⟩
    · rw [hfirst, hlater, List.append_assoc, turns_succ]
    · rw [turns_succ, hturns, hturn, Inbox.value_routeAll_append]

/-- On a line that ends, enough turns end the listening. -/
lemma running_turns (n : Nat) (l : Listener) (x : Inbox) (hends : l.intake.source.Ends)
    (hn : l.effort ≤ n) : (turns n l x).1.running = false := by
  induction n generalizing l x with
  | zero =>
    cases hrunning : l.running with
    | false => exact hrunning
    | true =>
      rw [effort_of_running hrunning] at hn
      omega
  | succ n ih =>
    cases hrunning : l.running with
    | false =>
      rw [turns_of_not_running hrunning]
      exact hrunning
    | true =>
      obtain ⟨hlt, hends'⟩ := effort_turn_lt hends hrunning x
      rw [turns_succ]
      cases hrunning' : (l.turn x).1.running with
      | false =>
        rw [turns_of_not_running hrunning']
        exact hrunning'
      | true => exact ih (l.turn x).1 (l.turn x).2 (hends' hrunning') (by omega)

lemma effort_le (l : Listener) :
    l.effort ≤ l.intake.source.weight + l.intake.decoder.weight + 1 := by
  rw [effort]
  split
  · next h =>
    have hpackets := l.intake.length_outcome_le
    have hline := l.intake.source.length_stream_le
    rw [outstanding_of_running h]
    omega
  · exact Nat.zero_le _

/-- On a line that ends, a listener that takes all that has arrived comes to its own end. -/
lemma running_catchUp (l : Listener) (x : Inbox) (hends : l.intake.source.Ends) :
    (l.catchUp x).1.running = false :=
  running_turns _ l x hends l.effort_le

/-- A new listener on a line that ends comes to its own end after enough turns. By then it has
routed the packets of one feed of the data that arrived before the end of the line, each of them
once and in their order. If it is stopped after any number of turns, it routes nothing more, and
what it has routed are the first of these packets; a stop in the middle of a turn is noticed when
the turn is over. -/
theorem turns_until_end (arrivals closing : List Arrival) (ending : Ending) (x : Inbox)
    (hgoes : ∀ a ∈ arrivals, a.goesOn = true) (hover : IsOver closing ending) :
    let l : Listener := { intake := { source := script arrivals closing ending } }
    let packets := (({} : Decoder).feed (arrivals.flatMap Arrival.bytes)).value.1
    (∃ n, ∀ m, n ≤ m → (turns m l x).1.running = false ∧
      (turns m l x).2 = (x.routeAll packets).value) ∧
    (∀ k, ∃ routed, routed <+: packets ∧ ∀ m,
      turns m (turns k l x).1.stop (turns k l x).2 =
        ((turns k l x).1.stop, (x.routeAll routed).value)) := by
  intro l packets
  have hends : l.intake.source.Ends := hover.ends
  have houtstanding : l.outstanding = packets := by
    rw [outstanding_of_running rfl, Intake.outcome]
    show (({} : Decoder).feed (script arrivals closing ending).stream).value.1 = packets
    rw [hover.stream_script hgoes]
  refine ⟨⟨l.effort, fun m hm => ?_⟩, fun k => ?_⟩
  · have hrunning := running_turns m l x hends hm
    obtain ⟨routed, hrouted, hinbox⟩ := routed_turns m l x
    rw [houtstanding, outstanding_of_not_running hrunning, List.append_nil] at hrouted
    exact ⟨hrunning, hrouted ▸ hinbox⟩
  · obtain ⟨routed, hrouted, hinbox⟩ := routed_turns k l x
    refine ⟨routed, ?_, fun m => ?_⟩
    · rw [← houtstanding, hrouted]
      exact List.prefix_append _ _
    · rw [turns_of_not_running rfl, hinbox]

/-- Two frames that are torn by silence and by an interruption. -/
def torn : List Arrival :=
  [.data [0x80, 0x02, 0x70], .fault (.ofKind .timedOut), .data [0x0A, 0x80, 0x01],
    .fault (.ofKind .interrupted), .data [0xFA]]

/-- A line that breaks; what would arrive afterwards is never read. -/
def broken : List Arrival := [.fault (.ofKind .brokenPipe), .data [0x80, 0x01, 0x71]]

theorem turns_until_end_of_torn :
    let l : Listener := { intake := { source := script torn broken .quiet } }
    (∀ a ∈ torn, a.goesOn = true) ∧ IsOver broken .quiet ∧
      (∃ n, ∀ m, n ≤ m → (turns m l {}).1.running = false ∧
        (turns m l {}).2 = (({} : Inbox).routeAll [[0x70, 0x0A], [0xFA]]).value) ∧
      (∀ k, ∃ routed, routed <+: [[0x70, 0x0A], [0xFA]] ∧ ∀ m,
        turns m (turns k l {}).1.stop (turns k l {}).2 =
          ((turns k l {}).1.stop, (({} : Inbox).routeAll routed).value)) := by
  have hgoes : ∀ a ∈ torn, a.goesOn = true := by decide
  have hover : IsOver broken .quiet := .arrival rfl _ _
  have hframes : torn.flatMap Arrival.bytes = [0x80, 0x02, 0x70, 0x0A] ++ [0x80, 0x01, 0xFA] := rfl
  have hpackets : (({} : Decoder).feed (torn.flatMap Arrival.bytes)).value.1 =
      [[0x70, 0x0A], [0xFA]] := by
    have hfirst : encode [0x70, 0x0A] = .ok [0x80, 0x02, 0x70, 0x0A] := rfl
    have hsecond : encode [0xFA] = .ok [0x80, 0x01, 0xFA] := rfl
    rw [hframes, Decoder.feed_append, Decoder.feed_frame {} hfirst, Decoder.feed_frame _ hsecond]
    rfl
  have h := turns_until_end torn broken .quiet {} hgoes hover
  rw [hpackets] at h
  exact ⟨hgoes, hover, h⟩

end Listener

end ControlNode
