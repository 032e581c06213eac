import ControlNode.Proofs.Session.Bench
import Mathlib.Tactic.SplitIfs

/-!
# The outcome of a command

What a command comes to, after any history of a session on the bench, depends on the packets alone
that the device completes when the frame of the command was written: on the last answer among them
(`Session.perform_after_history`).
-/

namespace ControlNode

/-! ### Packets of commands -/

namespace Command

lemma isRadioPeriod_iff {ms : UInt16} :
    isRadioPeriod ms = true ↔ 2 ≤ ms.toNat ∧ ms.toNat ≤ 499 := by
  rw [isRadioPeriod, Bool.and_eq_true, decide_eq_true_iff, decide_eq_true_iff]
  rfl

/-- Exactly radio measures with a period out of range have no packet. -/
lemma encode_eq_error_iff {c : Command} {e : CommandError} :
    c.encode = .error e ↔
      ∃ ms, c = .radio (some ms) ∧ ¬ (2 ≤ ms.toNat ∧ ms.toNat ≤ 499) ∧
        e = .invalidArgument (radioPeriodText ms) := by
  constructor
  · intro h
    rw [encode.eq_def] at h
    split at h
    · cases h
    · cases h
    · split_ifs at h
    · cases h
    · next ms =>
      split_ifs at h with hms
      cases h
      exact ⟨ms, rfl, isRadioPeriod_iff.not.1 hms, rfl⟩
    · cases h
  · rintro ⟨ms, rfl, hms, rfl⟩
    rw [encode, if_neg (isRadioPeriod_iff.not.2 hms)]

lemma length_of_encode {c : Command} {p : Packet} (h : c.encode = .ok p) :
    1 ≤ p.length ∧ p.length ≤ 4 := by
  rw [encode.eq_def] at h
  split at h
  case h_3 | h_5 =>
    split_ifs at h
    all_goals
      cases h
      simp
  all_goals
    cases h
    simp

/-- The packet of a command has a frame. -/
lemma exists_frame {c : Command} {p : Packet} (h : c.encode = .ok p) :
    ∃ frame, Frame.encode p = .ok frame := by
  obtain ⟨hpos, hle⟩ := length_of_encode h
  exact ⟨_, Frame.encode_eq_ok_iff.2 ⟨⟨hpos, by omega⟩, rfl⟩⟩

/-- The packets of commands, of those that have one. -/
def packets (commands : List Command) : List Packet :=
  commands.filterMap fun c => c.encode.toOption

lemma packets_append (commands later : List Command) :
    packets (commands ++ later) = packets commands ++ packets later :=
  List.filterMap_append

lemma packets_cons (c : Command) (later : List Command) :
    packets (c :: later) = c.encode.toOption.toList ++ packets later := by
  rw [packets, List.filterMap_cons]
  cases c.encode.toOption <;> rfl

/-! ### Judging answers -/

variable {tag : UInt8} {a : Packet}

lemma judge_of_acceptance (h : [tag, 0x0A] <+: a) : judge tag (some a) = .ok () := by
  obtain ⟨rest, rfl⟩ := h
  simp [judge, acceptance]

lemma judge_of_refusal (h : [tag, 0x02] <+: a) : judge tag (some a) = .error (.refused tag) := by
  obtain ⟨rest, rfl⟩ := h
  simp [judge, acceptance, refusal]

lemma judge_of_other (hacceptance : ¬ [tag, 0x0A] <+: a) (hrefusal : ¬ [tag, 0x02] <+: a) :
    judge tag (some a) = .error (.unexpectedAnswer tag a) := by
  match a with
  | [] | [_] => rfl
  | t :: verdict :: rest =>
    rw [judge, if_neg, if_neg]
    · rintro ⟨rfl, rfl⟩
      exact hrefusal ⟨rest, rfl⟩
    · rintro ⟨rfl, rfl⟩
      exact hacceptance ⟨rest, rfl⟩

end Command

namespace Session

open Inbox

/-- What a command with the tag comes to when the packets arrive. -/
inductive Outcome (tag : UInt8) (arrived : List Packet) : Except CommandError Unit → Prop
  /-- There is no answer. -/
  | timeout (h : ∀ p ∈ arrived, ¬ p.IsAnswer) : Outcome tag arrived (.error (.timeout tag))
  /-- The last answer repeats the tag and accepts. -/
  | accepted {a : Packet} (h : IsLastAnswer arrived a) (ha : [tag, 0x0A] <+: a) :
      Outcome tag arrived (.ok ())
  /-- The last answer repeats the tag and refuses. -/
  | refused {a : Packet} (h : IsLastAnswer arrived a) (ha : [tag, 0x02] <+: a) :
      Outcome tag arrived (.error (.refused tag))
  /-- The last answer does neither. -/
  | unexpected {a : Packet} (h : IsLastAnswer arrived a) (hacceptance : ¬ [tag, 0x0A] <+: a)
      (hrefusal : ¬ [tag, 0x02] <+: a) :
      Outcome tag arrived (.error (.unexpectedAnswer tag a))

variable {tag : UInt8} {arrived : List Packet} {result : Except CommandError Unit}

lemma Outcome.judge (h : Outcome tag arrived result) :
    Command.judge tag (lastAnswer? arrived) = result := by
  cases h with
  | timeout h =>
    have hnone : lastAnswer? arrived = none := by
      rw [← Option.not_isSome_iff_eq_none, isSome_lastAnswer?_iff]
      rintro ⟨p, hp, hanswer⟩
      exact h p hp hanswer
    rw [hnone]
    rfl
  | accepted h ha => rw [lastAnswer?_eq_some_iff.2 h, Command.judge_of_acceptance ha]
  | refused h ha => rw [lastAnswer?_eq_some_iff.2 h, Command.judge_of_refusal ha]
  | unexpected h hacceptance hrefusal =>
    rw [lastAnswer?_eq_some_iff.2 h, Command.judge_of_other hacceptance hrefusal]

lemma exists_outcome (tag : UInt8) (arrived : List Packet) :
    ∃ result, Outcome tag arrived result := by
  cases h : lastAnswer? arrived with
  | none =>
    refine ⟨_, .timeout fun p hp hanswer => ?_⟩
    have hsome := isSome_lastAnswer?_iff.2 ⟨p, hp, hanswer⟩
    rw [h] at hsome
    cases hsome
  | some a =>
    have hlast := lastAnswer?_eq_some_iff.1 h
    by_cases hacceptance : [tag, 0x0A] <+: a
    · exact ⟨_, .accepted hlast hacceptance⟩
    · by_cases hrefusal : [tag, 0x02] <+: a
      · exact ⟨_, .refused hlast hrefusal⟩
      · exact ⟨_, .unexpected hlast hacceptance hrefusal⟩

/-- A command comes to exactly one thing. -/
lemma judge_lastAnswer?_eq_iff :
    Command.judge tag (lastAnswer? arrived) = result ↔ Outcome tag arrived result := by
  constructor
  · intro h
    obtain ⟨result', h'⟩ := exists_outcome tag arrived
    rwa [← h, h'.judge]
  · exact Outcome.judge

/-! ### Commands after any history -/

lemma value_conclude (c : Command) (answer : Option Packet) :
    (conclude c answer).value = Command.judge c.tag answer := by
  rw [conclude]
  split
  · next h => rw [h]; rfl
  · next e h => rw [h]; rfl

lemma result_perform {σ : Type} [Carrier σ] {s : Session σ} {c : Command} {p : Packet}
    (h : c.encode = .ok p) :
    (s.perform c).value.1 = Command.judge c.tag (Carrier.exchange s.carrier p).value.1 := by
  rw [value_perform_of_ok h, value_conclude]

lemma result_perform_of_ok {s : Session Bench} {c : Command} {p : Packet} (h : c.encode = .ok p) :
    (s.perform c).value.1 = Command.judge c.tag (s.carrier.exchange p).value.1 := result_perform h

/-- After any history, a command without a packet is an invalid argument and changes nothing. Of
all others exactly the frame of the packet is sent, and the outcome is decided by the packets that
the next bytes of the device complete, wherever the decoder was. -/
theorem perform_after_history (clock : Float) (timeout : Duration)
    (device : List (Option (List (List UInt8)))) (history : List Op) (c : Command) :
    let s := run { clock, carrier := { device, timeout } } history
    let done := (s.perform c).value
    (∀ e, c.encode = .error e ↔ ∃ ms, c = .radio (some ms) ∧ ¬ (2 ≤ ms.toNat ∧ ms.toNat ≤ 499) ∧
      e = .invalidArgument (Command.radioPeriodText ms)) ∧
    (∀ e, c.encode = .error e → done = (.error e, s)) ∧
    (∀ p, c.encode = .ok p → ∃ frame, Frame.encode p = .ok frame ∧
      done.2.carrier.sent = s.carrier.sent ++ [frame] ∧
      ∀ result, done.1 = result ↔ Outcome c.tag s.carrier.arriving result) := by
  intro s done
  have hdrained : s.carrier.decoder.IsDrained :=
    isDrained_run (s := { clock, carrier := { device, timeout } }) rfl history
  refine ⟨fun e => Command.encode_eq_error_iff, fun e he => perform_of_error he, fun p hp => ?_⟩
  obtain ⟨frame, hframe⟩ := Command.exists_frame hp
  have hexchange := Bench.value_exchange_of_ok hdrained hframe
  refine ⟨frame, hframe, ?_, ?_⟩
  · rw [carrier_perform_of_ok hp, hexchange]
    rfl
  · intro result
    rw [result_perform_of_ok hp, hexchange]
    exact judge_lastAnswer?_eq_iff

end Session

end ControlNode
