import ControlNode.Proofs.Command.Table
import ControlNode.Proofs.Frame.Acceptance
import ControlNode.Proofs.Session.Outcome

/-!
# What a session sends

Commands that are performed one after the other, with whatever answers, send one frame each, except
those that have no packet and send nothing (`Session.sent_run`). The frames are enough for the
device to find the packets again, into whatever pieces the bytes are cut, and the packets are enough
to find the commands again (`Session.commands_recovered`).
-/

namespace ControlNode

namespace Session

open ControlNode.Frame

/-! ### Sending over a history -/

/-- The command that an operation performs, if any. -/
def Op.command? : Op → Option Command
  | .perform c => some c
  | _ => none

/-- The commands of a history, in their order. -/
def commands (history : List Op) : List Command := history.filterMap Op.command?

variable {s : Session Bench}

/-- A command sends the frame of its packet, if it has one. -/
lemma sent_perform (h : s.carrier.decoder.IsDrained) (c : Command) :
    ∃ frames, AreFrames frames c.encode.toOption.toList ∧
      (s.perform c).value.2.carrier.sent = s.carrier.sent ++ frames := by
  cases hc : c.encode with
  | error e =>
    refine ⟨[], .nil, ?_⟩
    rw [perform_of_error hc, List.append_nil]
  | ok p =>
    obtain ⟨frame, hframe⟩ := Command.exists_frame hc
    refine ⟨[frame], .cons hframe .nil, ?_⟩
    rw [carrier_perform_of_ok hc, Bench.value_exchange_of_ok h hframe]
    rfl

/-- An operation sends the frame of its command, and nothing if it is none. -/
lemma sent_step (h : s.carrier.decoder.IsDrained) {op : Op} (hop : ∀ p, op ≠ .exchange p) :
    ∃ frames, AreFrames frames (Command.packets op.command?.toList) ∧
      (s.step op).carrier.sent = s.carrier.sent ++ frames := by
  cases op with
  | perform c =>
    obtain ⟨frames, hframes, hsent⟩ := sent_perform h c
    refine ⟨frames, ?_, hsent⟩
    rw [Op.command?, Option.toList_some, Command.packets_cons]
    simpa [Command.packets] using hframes
  | exchange p => exact absurd rfl (hop p)
  | receive pieces =>
    refine ⟨[], .nil, ?_⟩
    simp only [step, Bench.value_receive h, List.append_nil]
  | pump limit =>
    refine ⟨[], .nil, ?_⟩
    rw [step, carrier_pump, List.append_nil]
  | decode p => exact ⟨[], .nil, (List.append_nil _).symm⟩
  | resetDecoder => exact ⟨[], .nil, (List.append_nil _).symm⟩
  | setClock clock => exact ⟨[], .nil, (List.append_nil _).symm⟩

/-- A history sends the frames of its commands, in their order. -/
theorem sent_run (h : s.carrier.decoder.IsDrained) {history : List Op}
    (hhistory : ∀ p, .exchange p ∉ history) :
    ∃ frames, AreFrames frames (Command.packets (commands history)) ∧
      (s.run history).carrier.sent = s.carrier.sent ++ frames := by
  induction history generalizing s with
  | nil => exact ⟨[], .nil, (List.append_nil _).symm⟩
  | cons op history ih =>
    have hop (p : Packet) : op ≠ .exchange p := fun heq => hhistory p (heq ▸ List.mem_cons_self)
    obtain ⟨frames, hframes, hsent⟩ := sent_step h hop
    obtain ⟨later, hlater, hrun⟩ :=
      ih (isDrained_step h op) fun p hp => hhistory p (List.mem_cons_of_mem op hp)
    refine ⟨frames ++ later, ?_, ?_⟩
    · have hcommands : commands (op :: history) = op.command?.toList ++ commands history := by
        rw [commands, List.filterMap_cons]
        cases op.command? <;> rfl
      rw [hcommands, Command.packets_append]
      exact List.rel_append hframes hlater
    · rw [← List.append_assoc, ← hsent]
      exact hrun

/-- Commands are performed on a new session in any history, whatever the device answers and whatever
else arrives and is decoded. Into whatever pieces the bytes are cut that were sent, the device finds
in them exactly the packets of the commands that have one, in their order, and nothing else. Each of
these packets stands for its command alone, where consumption measures of nothing are the same as
none. -/
theorem commands_recovered (clock : Float) (timeout : Duration)
    (device : List (Option (List (List UInt8)))) (history : List Op)
    (hhistory : ∀ p, .exchange p ∉ history) (pieces : List (List UInt8))
    (hpieces : pieces.flatten =
      (run { clock, carrier := { device, timeout } } history).carrier.sent.flatten) :
    let cs := commands history
    let heard := (({} : Decoder).feedAll pieces).value
    heard = (cs.filterMap fun c => c.encode.toOption,
      { tally := { frames := heard.1.length, discardedBytes := 0, zeroLength := 0 } }) ∧
    heard.1.map Command.parse? =
      (cs.filter fun c => c.encode.isOk).map (fun c => some c.canonical) ∧
    (∀ (c : Command) p, c.encode = .ok p → Command.parse? p = some c.canonical) ∧
    (∀ (c : Command) p, Command.parse? p = some c → c.encode = .ok p) ∧
    (∀ c : Command, c.SelectsNothing → c.canonical = .consumption none) ∧
    (∀ c : Command, ¬ c.SelectsNothing → c.canonical = c) := by
  intro cs heard
  obtain ⟨frames, hframes, hsent⟩ :=
    sent_run (s := { clock, carrier := { device, timeout } }) rfl hhistory
  have hheard : heard =
      (Command.packets cs, { tally := { frames := (Command.packets cs).length } }) := by
    have hdrained : ({} : Decoder).IsDrained := rfl
    have hfeed := Decoder.feed_frames 0 hframes
    rw [zero_add] at hfeed
    calc heard = (({} : Decoder).feed pieces.flatten).value :=
          Decoder.feedAll_eq_feed hdrained pieces
      _ = (({} : Decoder).feed frames.flatten).value := by rw [hpieces, hsent, List.nil_append]
      _ = _ := hfeed
  have hparse : heard.1.map Command.parse? =
      (cs.filter fun c => c.encode.isOk).map fun c => some c.canonical := by
    rw [hheard]
    exact Command.map_parse?_packets cs
  refine ⟨?_, hparse, fun c p => Command.parse?_of_encode,
    fun c p h => (Command.encode_of_parse? h).1, fun c => Command.canonical_of_selectsNothing,
    fun c => Command.canonical_of_not_selectsNothing⟩
  rw [hheard]
  rfl

/-- Commands with measures of everything and of nothing, one that has no packet, and one that is not
answered; in between, a frame begins to arrive. The pieces tear the frames that are sent. -/
theorem commands_recovered_mixed :
    let history : List Op := [.perform (.power .start .dc), .perform (.radio (some 500)),
      .receive [[0x80, 0x02]], .pump 1,
      .perform (.consumption (some { rail := .v5, power := true, voltage := true, current := true })),
      .perform (.consumption (some { rail := .battery })), .perform (.radio (some 300))]
    let pieces : List (List UInt8) := [[0x80], [0x02, 0x70, 0x01, 0x80, 0x03, 0x79], [],
      [0x27, 0xE5, 0x80, 0x03, 0x79, 0, 0, 0x80], [0x04, 0x75, 0x01, 0x2C, 0x01]]
    (∀ p, .exchange p ∉ history) ∧
      pieces.flatten =
        (run { clock := 1000, carrier := { device := [some [[0x80, 0x02], [0x70, 0x0A]], none] } }
          history).carrier.sent.flatten ∧
      (({} : Decoder).feedAll pieces).value.1.map Command.parse? =
        [some (.power .start .dc),
          some (.consumption
            (some { rail := .v5, power := true, voltage := true, current := true })),
          some (.consumption none), some (.radio (some 300))] := by
  intro history pieces
  have hhistory : ∀ p, .exchange p ∉ history := by simp [history]
  have hpieces : pieces.flatten =
      (run { clock := 1000, carrier := { device := [some [[0x80, 0x02], [0x70, 0x0A]], none] } }
        history).carrier.sent.flatten := by decide +kernel
  exact ⟨hhistory, hpieces, (commands_recovered 1000 _ _ _ hhistory _ hpieces).2.1⟩

end Session

end ControlNode
